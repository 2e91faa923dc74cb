import SnippetBridge.Json.Basic
import SnippetBridge.Text.Digit

/-!
Reading JSON text. The grammar is that of RFC 8259, with arrays and objects nested at most 127 deep
and numbers within the range of the doubles. A text that breaks off inside its outermost array or
object still yields the items or fields before the break, for readers that look at them one by one.
-/

namespace SnippetBridge.Json

def skipBlank : List Char → List Char
  | [] => []
  | c :: cs => if c = ' ' ∨ c = '\n' ∨ c = '\r' ∨ c = '\t' then skipBlank cs else c :: cs

/-- The character that a letter stands for after a backslash. -/
def shortEscape? : Char → Option Char
  | '"' => some '"'
  | '\\' => some '\\'
  | '/' => some '/'
  | 'b' => some '\x08'
  | 'f' => some '\x0c'
  | 'n' => some '\n'
  | 'r' => some '\r'
  | 't' => some '\t'
  | _ => none

/-- The rest of a string whose opening quote has been read. A code unit of a surrogate pair counts
only together with its partner. -/
def stringRest : List Char → Option (List Char × List Char)
  | [] => none
  | '"' :: rest => some ([], rest)
  | '\\' :: 'u' :: a :: b :: c :: d :: rest => do
    let unit ← Text.numeral? 16 [a, b, c, d]
    if 0xD800 ≤ unit ∧ unit < 0xDC00 then
      match rest with
      | '\\' :: 'u' :: e :: f :: g :: h :: rest =>
        let low ← Text.numeral? 16 [e, f, g, h]
        if 0xDC00 ≤ low ∧ low < 0xE000 then
          let (text, rest) ← stringRest rest
          return (Char.ofNat (0x10000 + (unit - 0xD800) * 0x400 + (low - 0xDC00)) :: text, rest)
        else none
      | _ => none
    else if 0xDC00 ≤ unit ∧ unit < 0xE000 then none
    else
      let (text, rest) ← stringRest rest
      return (Char.ofNat unit :: text, rest)
  | '\\' :: c :: rest => do
    let c ← shortEscape? c
    let (text, rest) ← stringRest rest
    return (c :: text, rest)
  | c :: rest =>
    if c.toNat < 0x20 then none
    else do
      let (text, rest) ← stringRest rest
      return (c :: text, rest)

/-- The number that an integer without fraction and exponent denotes: itself if it fits a word, and
else the nearest double. Minus zero is a double. -/
def integerNumber? (negative : Bool) (magnitude : Nat) : Option Number :=
  let value : Int := if negative then -(magnitude : Int) else magnitude
  if h : FitsWord value ∧ ¬(negative = true ∧ magnitude = 0) then some (.integer value h.1)
  else
    let x := Binary64.ofDecimal negative magnitude 0
    if h : x.isFinite = true then some (.decimal x h) else none

/-- The exponent part of a number, if there is one, and what follows. -/
def exponentPart? : List Char → Option (Option Int × List Char)
  | c :: rest =>
    if c = 'e' ∨ c = 'E' then
      let (negative, body) := match rest with
        | '-' :: more => (true, more)
        | '+' :: more => (false, more)
        | _ => (false, rest)
      let (value, count, rest) := Binary64.scanDigits body 0 0
      if count = 0 then none
      else some (some (if negative then -(value : Int) else (value : Int)), rest)
    else some (none, c :: rest)
  | [] => some (none, [])

/-- A number without its sign: no leading zeros, and digits after a point. -/
def unsigned? (negative : Bool) (cs : List Char) : Option (Number × List Char) := do
  let (whole, count, rest) := Binary64.scanDigits cs 0 0
  if count = 0 ∨ (1 < count ∧ cs.head? = some '0') then none
  else
    let (value, places, rest) ← match rest with
      | '.' :: more =>
        let (value, places, rest) := Binary64.scanDigits more whole 0
        if places = 0 then none else some (value, some places, rest)
      | _ => some (whole, none, rest)
    let (exponent, rest) ← exponentPart? rest
    match places, exponent with
    | none, none => return (← integerNumber? negative value, rest)
    | _, _ =>
      let x := Binary64.ofDecimal negative value (exponent.getD 0 - (places.getD 0 : Nat))
      if h : x.isFinite = true then return (.decimal x h, rest) else none

def number? : List Char → Option (Number × List Char)
  | '-' :: cs => unsigned? true cs
  | cs => unsigned? false cs

mutual

/-- One value at the start of a text without leading blanks; `depth` more levels may be opened. -/
def value? : Nat → Nat → List Char → Option (Json × List Char)
  | 0, _, _ => none
  | fuel + 1, depth, cs =>
    match cs with
    | 'n' :: 'u' :: 'l' :: 'l' :: rest => some (.null, rest)
    | 't' :: 'r' :: 'u' :: 'e' :: rest => some (.bool true, rest)
    | 'f' :: 'a' :: 'l' :: 's' :: 'e' :: rest => some (.bool false, rest)
    | '"' :: rest => do
      let (text, rest) ← stringRest rest
      return (.string (String.ofList text), rest)
    | '[' :: rest =>
      match depth with
      | 0 => none
      | depth + 1 => do
        let (found, rest) := items fuel depth rest
        return (.array found, ← rest)
    | '{' :: rest =>
      match depth with
      | 0 => none
      | depth + 1 => do
        let (found, rest) := fields fuel depth rest
        return (.object found, ← rest)
    | _ => do
      let (n, rest) ← number? cs
      return (.number n, rest)

/-- The items of an array whose bracket has been read, and what follows the closing bracket; without
a follow-up, the array breaks off after the items. -/
def items : Nat → Nat → List Char → List Json × Option (List Char)
  | 0, _, _ => ([], none)
  | fuel + 1, depth, cs =>
    match skipBlank cs with
    | ']' :: rest => ([], some rest)
    | cs => moreItems fuel depth cs

def moreItems : Nat → Nat → List Char → List Json × Option (List Char)
  | 0, _, _ => ([], none)
  | fuel + 1, depth, cs =>
    match value? fuel depth (skipBlank cs) with
    | none => ([], none)
    | some (item, rest) =>
      match skipBlank rest with
      | ']' :: rest => ([item], some rest)
      | ',' :: rest =>
        let (found, rest) := moreItems fuel depth rest
        (item :: found, rest)
      | _ => ([item], none)

/-- The fields of an object whose brace has been read, in the same manner. -/
def fields : Nat → Nat → List Char → List (String × Json) × Option (List Char)
  | 0, _, _ => ([], none)
  | fuel + 1, depth, cs =>
    match skipBlank cs with
    | '}' :: rest => ([], some rest)
    | cs => moreFields fuel depth cs

def moreFields : Nat → Nat → List Char → List (String × Json) × Option (List Char)
  | 0, _, _ => ([], none)
  | fuel + 1, depth, cs =>
    match skipBlank cs with
    | '"' :: rest =>
      match stringRest rest with
      | none => ([], none)
      | some (key, rest) =>
        match skipBlank rest with
        | ':' :: rest =>
          match value? fuel depth (skipBlank rest) with
          | none => ([], none)
          | some (value, rest) =>
            let field := (String.ofList key, value)
            match skipBlank rest with
            | '}' :: rest => ([field], some rest)
            | ',' :: rest =>
              let (found, rest) := moreFields fuel depth rest
              (field :: found, rest)
            | _ => ([field], none)
        | _ => ([], none)
    | _ => ([], none)

end

/-- The deepest nesting of arrays and objects that is read. -/
def maxDepth : Nat := 127

/-- How the text of a document ends: with the document, with something after it, or too early. -/
inductive Ending where
  | complete
  | trailing
  | broken
  deriving DecidableEq

/-- What a text holds. An array or object that breaks off is there with what precedes the break. -/
structure Draft where
  content : Option Json
  ending : Ending

/-- Looks at what follows a document. -/
def Draft.close (content : Json) : Option (List Char) → Draft
  | none => ⟨some content, .broken⟩
  | some rest => ⟨some content, if (skipBlank rest).isEmpty then .complete else .trailing⟩

def draft (text : String) : Draft :=
  let cs := skipBlank text.toList
  let fuel := 3 * cs.length + 3
  match cs with
  | '[' :: rest =>
    let (found, rest) := items fuel (maxDepth - 1) rest
    .close (.array found) rest
  | '{' :: rest =>
    let (found, rest) := fields fuel (maxDepth - 1) rest
    .close (.object found) rest
  | cs =>
    match value? fuel maxDepth cs with
    | none => ⟨none, .broken⟩
    | some (json, rest) => .close json (some rest)

/-- The document that is the whole of a text. -/
def ofText (text : String) : Except Error Json :=
  match draft text with
  | ⟨some json, .complete⟩ => .ok json
  | _ => .error .syntaxFault

end SnippetBridge.Json
