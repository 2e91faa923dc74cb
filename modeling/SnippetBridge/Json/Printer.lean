import SnippetBridge.Json.Basic
import SnippetBridge.Text.Block
import SnippetBridge.Text.Quoted

/-!
JSON documents as text, compact on one line or as indented blocks. A double is written with its
shortest digits, positionally from `1e-5` up to `1e16` and with an exponent elsewhere, so it never
looks like an integer.
-/

namespace SnippetBridge.Json

/-- A positive decimal in the notation of JSON doubles. Its first digit stands for `10 ^ leading`;
an exponent part is signed even when it is positive. -/
def decimalText (d : Decimal) : List Char :=
  let ds := d.digits
  let leading := d.exponent + (ds.length - 1 : Nat)
  if -5 ≤ leading ∧ leading < 16 then
    if 0 ≤ d.exponent then d.plain ++ ['.', '0'] else d.plain
  else
    let fraction := if ds.length = 1 then [] else '.' :: ds.drop 1
    let sign := if leading < 0 then '-' else '+'
    ds.take 1 ++ fraction ++ 'e' :: sign :: Nat.toDigits 10 leading.natAbs

def doubleText : Binary64 → List Char
  | .finite negative units _ =>
    let magnitude :=
      if units = 0 then ['0', '.', '0'] else decimalText (Binary64.shortest .even units)
    if negative then '-' :: magnitude else magnitude
  | _ => ['n', 'u', 'l', 'l']

def integerText : Int → List Char
  | .ofNat n => Nat.toDigits 10 n
  | .negSucc n => '-' :: Nat.toDigits 10 (n + 1)

def Number.text : Number → List Char
  | .integer value _ => integerText value
  | .decimal value _ => doubleText value

def boolText (b : Bool) : List Char := if b then ['t', 'r', 'u', 'e'] else ['f', 'a', 'l', 's', 'e']

def stringText (s : String) : List Char := '"' :: Text.Quoted.encode s.toList ++ ['"']

mutual

def compactText : Json → List Char
  | .null => ['n', 'u', 'l', 'l']
  | .bool b => boolText b
  | .number n => n.text
  | .string s => stringText s
  | .array items => '[' :: Text.separated [','] (compactItems items) ++ [']']
  | .object fields => '{' :: Text.separated [','] (compactFields fields) ++ ['}']

def compactItems : List Json → List (List Char)
  | [] => []
  | item :: rest => compactText item :: compactItems rest

def compactFields : List (String × Json) → List (List Char)
  | [] => []
  | (key, value) :: rest => (stringText key ++ ':' :: compactText value) :: compactFields rest

end

mutual

def prettyText (depth : Nat) : Json → List Char
  | .array items => Text.block ['['] [']'] (prettyItems (depth + 1) items) depth
  | .object fields => Text.block ['{'] ['}'] (prettyFields (depth + 1) fields) depth
  | .null => ['n', 'u', 'l', 'l']
  | .bool b => boolText b
  | .number n => n.text
  | .string s => stringText s

def prettyItems (depth : Nat) : List Json → List (List Char)
  | [] => []
  | item :: rest => prettyText depth item :: prettyItems depth rest

def prettyFields (depth : Nat) : List (String × Json) → List (List Char)
  | [] => []
  | (key, value) :: rest =>
    (stringText key ++ ':' :: ' ' :: prettyText depth value) :: prettyFields depth rest

end

def compact (json : Json) : String := String.ofList (compactText json)

def pretty (json : Json) : String := String.ofList (prettyText 0 json)

end SnippetBridge.Json
