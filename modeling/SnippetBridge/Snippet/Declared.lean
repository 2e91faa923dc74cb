import SnippetBridge.Snippet.Basic
import SnippetBridge.Value.Basic

/-!
The value that a snippet declares. A function declares its parameters: each name it binds, with the
value of its default or `null`. An object literal declares itself. Nothing else declares a value.

A parameter list is first read as a list of *bindings* in source order. A pattern that is not
understood is a binding without a name; such bindings are numbered as they come.
-/

namespace SnippetBridge

namespace Expr

/-- The dotted path of a chain of members that is made of simple names throughout. -/
def path? : Expr → Option String
  | .identifier name => some name
  | .member target (some property) => target.path?.map (· ++ "." ++ property)
  | _ => none

mutual

/-- The value of an expression. A lone name is the string of the name, a dotted chain of names is a
reference, and whatever is not a literal is `null`. -/
def value : Expr → Value
  | .literal (.bool b) => .bool b
  | .literal (.number x) => .number x
  | .literal (.string s) => .string s
  | .array elements => .array (elementValues elements)
  | .object properties => .ofEntries (propertyValues properties)
  | .member target property =>
    match (Expr.member target property).path? with
    | some path => .reference path
    | none => .null
  | .identifier name => .string name
  | .function _ => .null
  | .other _ => .null

def elementValues : List (Option Expr) → List Value
  | [] => []
  | none :: rest => .null :: elementValues rest
  | some element :: rest => value element :: elementValues rest

def propertyValues : List (String × Expr) → List (String × Value)
  | [] => []
  | (key, expr) :: rest => (key, value expr) :: propertyValues rest

end

end Expr

/-- What a parameter list binds: a key with a value, or something without a name. -/
inductive Binding where
  | named (key : String) (value : Value)
  | unknown

namespace Pattern

/-- The binding of a rest parameter or rest element. -/
def restBinding : Pattern → Binding
  | .identifier name => .named ("..." ++ name) .null
  | _ => .unknown

mutual

/-- The bindings of a pattern. A default counts only when it belongs to a name; the default of a
nested pattern is dropped. A property that is bound to a plain name counts by its key. -/
def bindings : Pattern → List Binding
  | .identifier name => [.named name .null]
  | .assignment (.identifier name) right => [.named name right.value]
  | .assignment left _ => bindings left
  | .object properties => propertyBindings properties
  | .array elements => elementBindings elements
  | .rest argument => [restBinding argument]
  | .unsupported _ => [.unknown]

def propertyBindings : List PropertyPattern → List Binding
  | [] => []
  | .rest argument :: tail => restBinding argument :: propertyBindings tail
  | .property key (.identifier _) :: tail => .named key .null :: propertyBindings tail
  | .property _ value :: tail => bindings value ++ propertyBindings tail

def elementBindings : List (Option Pattern) → List Binding
  | [] => []
  | none :: tail => elementBindings tail
  | some element :: tail => bindings element ++ elementBindings tail

end

end Pattern

namespace Binding

/-- The key of the first binding without a name. -/
def unknownKey : String := "[unknown]"

/-- The key of the `n`-th binding without a name. -/
def unknownKeyAt (n : Nat) : String :=
  if n = 1 then unknownKey else "[unknown:" ++ String.ofList (Nat.toDigits 10 n) ++ "]"

/-- Entries for bindings, when `seen` ones without a name came before them. -/
def entriesFrom (seen : Nat) : List Binding → List (String × Value)
  | [] => []
  | .named key value :: rest => (key, value) :: entriesFrom seen rest
  | .unknown :: rest => (unknownKeyAt (seen + 1), .unknown) :: entriesFrom (seen + 1) rest

end Binding

namespace Pattern

/-- The object that a parameter list declares, when `seen` bindings without a name came before. -/
def describeFrom (seen : Nat) (params : List Pattern) : Value :=
  .ofEntries (Binding.entriesFrom seen (params.flatMap bindings))

/-- The object that a parameter list declares. -/
def describe (params : List Pattern) : Value := describeFrom 0 params

end Pattern

namespace Expr

/-- The value that an expression declares when it is a statement or an initializer. -/
def declared? : Expr → Option Value
  | .function params => some (Pattern.describe params)
  | .object properties => some (Expr.object properties).value
  | _ => none

end Expr

namespace Statement

def declared? : Statement → Option Value
  | .function params => some (Pattern.describe params)
  | .variable init => init.bind Expr.declared?
  | .expression expr => expr.declared?
  | .unsupported _ => none

end Statement

end SnippetBridge
