import SnippetBridge.Value.Json

/-!
The JSON text of a value, written from the value itself. It is the compact text of the value's
JSON form; no document is built in between.
-/

namespace SnippetBridge.Value

def numberText (x : Binary64) : List Char :=
  match x.safeInteger? with
  | some n => Json.integerText n
  | none => Json.doubleText x

mutual

def text : Value → List Char
  | .null => ['n', 'u', 'l', 'l']
  | .unknown => ['n', 'u', 'l', 'l']
  | .bool b => Json.boolText b
  | .number x => numberText x
  | .string s => Json.stringText s
  | .array items => '[' :: Text.separated [','] (itemTexts items) ++ [']']
  | .object entries => '{' :: Text.separated [','] (entryTexts entries) ++ ['}']
  | .reference path => '{' :: Json.stringText referenceKey ++ ':' :: Json.stringText path ++ ['}']

def itemTexts : List Value → List (List Char)
  | [] => []
  | item :: rest => text item :: itemTexts rest

def entryTexts : List (String × Value) → List (List Char)
  | [] => []
  | (key, value) :: rest => (Json.stringText key ++ ':' :: text value) :: entryTexts rest

end

/-- The JSON text of a value on one line. -/
def write (value : Value) : String := String.ofList (text value)

end SnippetBridge.Value
