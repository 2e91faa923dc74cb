import SnippetBridge.Binary64.Text
import SnippetBridge.DottedPath

/-!
What is kept of a snippet: its first statement, as far as parameter lists, destructuring patterns
and literal expressions go. Everything else is `unsupported` or `other`, with the name of its kind
of node.
-/

namespace SnippetBridge

inductive Literal where
  | bool (value : Bool)
  | number (value : Binary64)
  | string (value : String)
  deriving DecidableEq

mutual

inductive Pattern where
  | identifier (name : String)
  | assignment (left : Pattern) (right : Expr)
  | object (properties : List PropertyPattern)
  /-- `none` marks a hole, as in `[a, , b]`. -/
  | array (elements : List (Option Pattern))
  | rest (argument : Pattern)
  | unsupported (node : String)

inductive PropertyPattern where
  /-- `{ key }`, `{ key: value }` and `{ key = default }`. -/
  | property (key : String) (value : Pattern)
  | rest (argument : Pattern)

inductive Expr where
  | function (params : List Pattern)
  | literal (value : Literal)
  | identifier (name : String)
  /-- Without a property, what is accessed is not a simple name. -/
  | member (object : Expr) (property : Option String)
  /-- `none` marks a hole. -/
  | array (elements : List (Option Expr))
  | object (properties : List (String × Expr))
  | other (node : String)

end

inductive Statement where
  | function (params : List Pattern)
  /-- A declaration by `let`, `const` or `var`, with the initializer of its first name. -/
  | variable (init : Option Expr)
  | expression (expression : Expr)
  | unsupported (node : String)

namespace Pattern

/-- The name of the kind of pattern. -/
def kind : Pattern → String
  | .identifier _ => "identifier"
  | .assignment _ _ => "assignment_pattern"
  | .object _ => "object_pattern"
  | .array _ => "array_pattern"
  | .rest _ => "rest_element"
  | .unsupported node => node

end Pattern

namespace Expr

def string (value : String) : Expr := .literal (.string value)

def number (value : Binary64) : Expr := .literal (.number value)

def bool (value : Bool) : Expr := .literal (.bool value)

/-- The chain of members that a dotted path spells, so that `a.b.c` is `(a.b).c`. -/
def ofPath (path : String) : Expr :=
  let (root, properties) := DottedPath.split path.toList
  properties.foldl (fun object property => .member object (some (String.ofList property)))
    (.identifier (String.ofList root))

/-- An array without holes. -/
def ofItems (items : List Expr) : Expr := .array (items.map some)

end Expr

end SnippetBridge
