import SnippetBridge.Json.Printer
import SnippetBridge.Snippet.Basic

/-!
The JSON form of snippets. Each node is an object whose first field is the `kind` of the node; the
other fields follow in a fixed order, with `null` for what is absent.
-/

namespace SnippetBridge

/-- A node of a kind with its fields. -/
def Json.tagged (kind : String) (fields : List (String × Json)) : Json :=
  .object (("kind", .string kind) :: fields)

namespace Literal

def toJson : Literal → Json
  | .bool b => .bool b
  | .number x => if h : x.isFinite = true then .number (.decimal x h) else .null
  | .string s => .string s

end Literal

mutual

def Pattern.toJson : Pattern → Json
  | .identifier name => .tagged "identifier" [("name", .string name)]
  | .assignment left right =>
    .tagged "assignment_pattern" [("left", left.toJson), ("right", right.toJson)]
  | .object properties =>
    .tagged "object_pattern" [("properties", .array (PropertyPattern.listToJson properties))]
  | .array elements =>
    .tagged "array_pattern" [("elements", .array (Pattern.elementsToJson elements))]
  | .rest argument => .tagged "rest_element" [("argument", argument.toJson)]
  | .unsupported node => .tagged "unsupported" [("node", .string node)]

def Pattern.elementsToJson : List (Option Pattern) → List Json
  | [] => []
  | none :: rest => .null :: Pattern.elementsToJson rest
  | some element :: rest => element.toJson :: Pattern.elementsToJson rest

def Pattern.listToJson : List Pattern → List Json
  | [] => []
  | pattern :: rest => pattern.toJson :: Pattern.listToJson rest

def PropertyPattern.toJson : PropertyPattern → Json
  | .property key value => .tagged "property" [("key", .string key), ("value", value.toJson)]
  | .rest argument => .tagged "rest_element" [("argument", argument.toJson)]

def PropertyPattern.listToJson : List PropertyPattern → List Json
  | [] => []
  | property :: rest => property.toJson :: PropertyPattern.listToJson rest

def Expr.toJson : Expr → Json
  | .function params => .tagged "function" [("params", .array (Pattern.listToJson params))]
  | .literal value => .tagged "literal" [("value", value.toJson)]
  | .identifier name => .tagged "identifier" [("name", .string name)]
  | .member object property =>
    .tagged "member_expression"
      [("object", object.toJson), ("property", (property.map Json.string).getD .null)]
  | .array elements => .tagged "array_literal" [("elements", .array (Expr.elementsToJson elements))]
  | .object properties =>
    .tagged "object_literal" [("properties", .array (Expr.propertiesToJson properties))]
  | .other node => .tagged "other" [("node", .string node)]

def Expr.elementsToJson : List (Option Expr) → List Json
  | [] => []
  | none :: rest => .null :: Expr.elementsToJson rest
  | some element :: rest => element.toJson :: Expr.elementsToJson rest

def Expr.propertiesToJson : List (String × Expr) → List Json
  | [] => []
  | (key, value) :: rest =>
    .object [("key", .string key), ("value", value.toJson)] :: Expr.propertiesToJson rest

end

/-- A property of an object literal on its own. -/
def Expr.propertyToJson (property : String × Expr) : Json :=
  .object [("key", .string property.1), ("value", property.2.toJson)]

namespace Statement

def toJson : Statement → Json
  | .function params => .tagged "function" [("params", .array (Pattern.listToJson params))]
  | .variable init => .tagged "variable_declaration" [("init", (init.map Expr.toJson).getD .null)]
  | .expression expr => .tagged "expression_statement" [("expression", expr.toJson)]
  | .unsupported node => .tagged "unsupported" [("node", .string node)]

end Statement

end SnippetBridge
