import SnippetBridge.Json.Decoding
import SnippetBridge.Snippet.Basic

/-!
Reading snippets from their JSON form. A node is an object with a `kind` and the fields of that
kind in any order, other fields being ignored, or an array of the kind and all its fields. Inside
another node a kind may also be given by its number.
-/

namespace SnippetBridge

namespace Json

/-- The kinds of node of one sort, with the names of their fields. -/
abbrev Kinds := List (String × List String)

/-- The kind that the value of a `kind` field names. -/
def kindOf? (kinds : Kinds) (nested : Bool) : Json → Option (String × List String)
  | .string name => kinds.find? fun kind => kind.1 == name
  | .number (.integer (.ofNat n) _) => if nested then kinds[n]? else none
  | _ => none

/-- The kind of a node and the values of the fields of that kind. -/
def node? (kinds : Kinds) (nested : Bool) : Json → Option (String × List (Option Json))
  | .object fields =>
    match fields.filter fun field => field.1 == "kind" with
    | [(_, tag)] => do
      let (kind, names) ← kindOf? kinds nested tag
      return (kind, ← recordFields? names (fun _ _ => true) fields)
    | _ => none
  | .array (tag :: items) => do
    let (kind, names) ← kindOf? kinds nested tag
    if items.length = names.length then return (kind, items.map some) else none
  | _ => none

def string? : Json → Option String
  | .string s => some s
  | _ => none

/-- The items of an array, each read in the same way. -/
def arrayOf? {α : Type} (read : Json → Option α) : Json → Option (List α)
  | .array items => items.mapM read
  | _ => none

/-- Nothing for `null`, and otherwise what is read. -/
def nullable? {α : Type} (read : Json → Option α) : Json → Option (Option α)
  | .null => some none
  | json => (read json).map some

end Json

namespace Literal

def ofJson? : Json → Option Literal
  | .bool b => some (.bool b)
  | .number n => some (.number n.toBinary64)
  | .string s => some (.string s)
  | _ => none

end Literal

namespace Snippet

def statementKinds : Json.Kinds :=
  [("function", ["params"]), ("variable_declaration", ["init"]),
    ("expression_statement", ["expression"]), ("unsupported", ["node"])]

def patternKinds : Json.Kinds :=
  [("identifier", ["name"]), ("assignment_pattern", ["left", "right"]),
    ("object_pattern", ["properties"]), ("array_pattern", ["elements"]),
    ("rest_element", ["argument"]), ("unsupported", ["node"])]

def propertyKinds : Json.Kinds := [("property", ["key", "value"]), ("rest_element", ["argument"])]

def exprKinds : Json.Kinds :=
  [("function", ["params"]), ("literal", ["value"]), ("identifier", ["name"]),
    ("member_expression", ["object", "property"]), ("array_literal", ["elements"]),
    ("object_literal", ["properties"]), ("other", ["node"])]

/-- A property of an object literal: a record of a key and a value. -/
def property? (read : Json → Option Expr) (json : Json) : Option (String × Expr) := do
  let values ← match json with
    | .object fields => Json.recordFields? ["key", "value"] (fun _ _ => true) fields
    | .array items => if items.length = 2 then some (items.map some) else none
    | _ => none
  match values with
  | [some key, some value] => return (← key.string?, ← read value)
  | _ => none

mutual

/-- Reads a pattern nested less than `fuel` levels deep. -/
def pattern? : Nat → Bool → Json → Option Pattern
  | 0, _, _ => none
  | fuel + 1, nested, json => do
    match ← Json.node? patternKinds nested json with
    | ("identifier", [some name]) => return .identifier (← name.string?)
    | ("assignment_pattern", [some left, some right]) =>
      return .assignment (← pattern? fuel true left) (← expr? fuel true right)
    | ("object_pattern", [some properties]) =>
      return .object (← properties.arrayOf? (propertyPattern? fuel true))
    | ("array_pattern", [some elements]) =>
      return .array (← elements.arrayOf? (Json.nullable? (pattern? fuel true)))
    | ("rest_element", [some argument]) => return .rest (← pattern? fuel true argument)
    | ("unsupported", [some node]) => return .unsupported (← node.string?)
    | _ => none

def propertyPattern? : Nat → Bool → Json → Option PropertyPattern
  | 0, _, _ => none
  | fuel + 1, nested, json => do
    match ← Json.node? propertyKinds nested json with
    | ("property", [some key, some value]) =>
      return .property (← key.string?) (← pattern? fuel true value)
    | ("rest_element", [some argument]) => return .rest (← pattern? fuel true argument)
    | _ => none

def expr? : Nat → Bool → Json → Option Expr
  | 0, _, _ => none
  | fuel + 1, nested, json => do
    match ← Json.node? exprKinds nested json with
    | ("function", [some params]) => return .function (← params.arrayOf? (pattern? fuel true))
    | ("literal", [some value]) => return .literal (← Literal.ofJson? value)
    | ("identifier", [some name]) => return .identifier (← name.string?)
    | ("member_expression", [some object, property]) =>
      return .member (← expr? fuel true object)
        (← Json.nullable? Json.string? (property.getD .null))
    | ("array_literal", [some elements]) =>
      return .array (← elements.arrayOf? (Json.nullable? (expr? fuel true)))
    | ("object_literal", [some properties]) =>
      return .object (← properties.arrayOf? (property? (expr? fuel true)))
    | ("other", [some node]) => return .other (← node.string?)
    | _ => none

end

def statement? (fuel : Nat) (json : Json) : Option Statement := do
  match ← Json.node? statementKinds false json with
  | ("function", [some params]) => return .function (← params.arrayOf? (pattern? fuel true))
  | ("variable_declaration", [init]) =>
    return .variable (← Json.nullable? (expr? fuel true) (init.getD .null))
  | ("expression_statement", [some expression]) => return .expression (← expr? fuel true expression)
  | ("unsupported", [some node]) => return .unsupported (← node.string?)
  | _ => none

end Snippet

namespace Statement

def ofJson? (json : Json) : Option Statement := Snippet.statement? json.depth json

def ofText (text : String) : Except Json.Error Statement := (Json.draft text).decode ofJson?

end Statement

namespace Pattern

def ofJson? (json : Json) : Option Pattern := Snippet.pattern? json.depth false json

def ofText (text : String) : Except Json.Error Pattern := (Json.draft text).decode ofJson?

/-- Reads a parameter list. -/
def listOfText (text : String) : Except Json.Error (List Pattern) :=
  (Json.draft text).decodeItems ofJson?

end Pattern

namespace PropertyPattern

def ofJson? (json : Json) : Option PropertyPattern := Snippet.propertyPattern? json.depth false json

def ofText (text : String) : Except Json.Error PropertyPattern := (Json.draft text).decode ofJson?

end PropertyPattern

namespace Literal

def ofText (text : String) : Except Json.Error Literal := (Json.draft text).decode ofJson?

end Literal

namespace Expr

def ofJson? (json : Json) : Option Expr := Snippet.expr? json.depth false json

def ofText (text : String) : Except Json.Error Expr := (Json.draft text).decode ofJson?

/-- Reads a property of an object literal. -/
def propertyOfText (text : String) : Except Json.Error (String × Expr) := do
  let fits (name : String) (value : Json) : Bool :=
    if name = "key" then value.string?.isSome else (ofJson? value).isSome
  let values ← (Json.draft text).decodeRecord ["key", "value"] true fits
  match values with
  | [some (.string key), some value] =>
    match ofJson? value with
    | some expr => return (key, expr)
    | none => .error .shapeFault
  | _ => .error .shapeFault

end Expr

end SnippetBridge
