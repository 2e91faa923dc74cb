import SnippetBridge.Snippet.Basic
import SnippetBridge.TypeScript.Escape
import SnippetBridge.TypeScript.Node
import SnippetBridge.TypeScript.Numeral

/-!
What a syntax tree says about parameters and literals. Parentheses, types, blanks and comments are
left out; what is neither a pattern nor a literal keeps the name of its kind only.
-/

namespace SnippetBridge.TypeScript

namespace Node

/-! Strings and keys. -/

/-- The characters that a part of a string literal stands for. -/
def contents (part : Node) : List Char :=
  match part.kind with
  | .stringFragment => part.text.toList
  | .escapeSequence => Escape.decode part.text.toList
  | _ => []

/-- The string that a string literal denotes. -/
def stringValue (literal : Node) : String :=
  String.ofList (literal.children.flatMap fun child => child.2.contents)

/-- The key of a property. A string and a number stand for the key they denote; a computed key that
is not a string stands for its source text. -/
def propertyKey (key : Node) : String :=
  match key.kind with
  | .string => key.stringValue
  | .number => ((Numeral.value? key.text).map Numeral.key).getD key.text
  | .computedPropertyName =>
    match firstPart? key.children with
    | some inner => if inner.kind = .string then inner.stringValue else inner.text
    | none => key.text
  | _ => key.text

/-- The property that a member expression names, if it is a plain one. -/
def plainProperty? (children : Children) : Option String :=
  if children.any fun child => child.2.kind == .optionalChain then none
  else
    match childAs? .property children with
    | some property => if property.kind = .propertyIdentifier then some property.text else none
    | none => none

/-! Expressions and patterns. -/

mutual

/-- The expression that a node is. -/
def toExpr : Node → Expr
  | .leaf kind text =>
    match kind with
    | .number => (Numeral.value? text).elim (.other kind.name) .number
    | .trueLiteral => .bool true
    | .falseLiteral => .bool false
    | .identifier | .undefined => .identifier text
    | _ => .other kind.name
  | .branch kind children =>
    match kind with
    | .parenthesizedExpression => (firstExpr? children).getD (.other kind.name)
    | .functionExpression | .generatorFunction | .arrowFunction =>
      match patternAs? .parameter children with
      | some parameter => .function [parameter]
      | none => .function (formalParams children)
    | .string => .string (stringValue (.branch kind children))
    | .memberExpression =>
      match exprAs? .object children with
      | some object => .member object (plainProperty? children)
      | none => .other kind.name
    | .subscriptExpression =>
      match exprAs? .object children with
      | some object => .member object none
      | none => .other kind.name
    | .array => .array (exprSlots false children)
    | .object => .object (properties children)
    | _ => .other kind.name

def exprAs? (role : Role) : List (Role × Node) → Option Expr
  | [] => none
  | (r, node) :: rest => if r = role then some node.toExpr else exprAs? role rest

def firstExpr? : List (Role × Node) → Option Expr
  | [] => none
  | (_, node) :: rest => if node.kind.isPart then some node.toExpr else firstExpr? rest

/-- The elements of an array, when the last thing before them is an element or not. A comma that
follows no element stands for a hole. -/
def exprSlots (filled : Bool) : List (Role × Node) → List (Option Expr)
  | [] => []
  | (_, node) :: rest =>
    if node.kind.isPart then some node.toExpr :: exprSlots true rest
    else if node.text = "," then
      if filled then exprSlots false rest else none :: exprSlots false rest
    else exprSlots filled rest

/-- The properties of an object literal. What is spread into it has no key. -/
def properties : List (Role × Node) → List (String × Expr)
  | [] => []
  | (_, .leaf kind text) :: rest =>
    if kind = .shorthandPropertyIdentifier then (text, .identifier text) :: properties rest
    else properties rest
  | (_, .branch kind children) :: rest =>
    match kind with
    | .pair =>
      match childAs? .key children, exprAs? .value children with
      | some key, some value => (key.propertyKey, value) :: properties rest
      | _, _ => properties rest
    | .methodDefinition =>
      match childAs? .name children with
      | some name => (name.propertyKey, .other kind.name) :: properties rest
      | none => properties rest
    | _ => properties rest

/-- The parameters in the first list of parameters. -/
def formalParams : List (Role × Node) → List Pattern
  | [] => []
  | (role, node) :: rest =>
    if role = .parameters then
      match node with
      | .leaf _ _ => []
      | .branch _ children => params children
    else formalParams rest

/-- The parameters of a list. Each is a pattern, with a type and a default value or without. -/
def params : List (Role × Node) → List Pattern
  | [] => []
  | (_, .leaf kind text) :: rest =>
    if kind.isPart then (Node.leaf kind text).toPattern :: params rest else params rest
  | (_, .branch kind children) :: rest =>
    match kind with
    | .requiredParameter | .optionalParameter =>
      match patternAs? .pattern children, exprAs? .value children with
      | some target, some value => .assignment target value :: params rest
      | some target, none => target :: params rest
      | none, _ => .unsupported kind.name :: params rest
    | _ => (Node.branch kind children).toPattern :: params rest

/-- The pattern that a node is. -/
def toPattern : Node → Pattern
  | .leaf kind text =>
    match kind with
    | .identifier | .shorthandPropertyIdentifierPattern => .identifier text
    | _ => .unsupported kind.name
  | .branch kind children =>
    match kind with
    | .assignmentPattern | .objectAssignmentPattern =>
      match patternAs? .left children, exprAs? .right children with
      | some left, some right => .assignment left right
      | _, _ => .unsupported kind.name
    | .objectPattern => .object (propertyPatterns children)
    | .arrayPattern => .array (patternSlots false children)
    | .restPattern => (firstPattern? children).elim (.unsupported kind.name) .rest
    | _ => .unsupported kind.name

def patternAs? (role : Role) : List (Role × Node) → Option Pattern
  | [] => none
  | (r, node) :: rest => if r = role then some node.toPattern else patternAs? role rest

def firstPattern? : List (Role × Node) → Option Pattern
  | [] => none
  | (_, node) :: rest => if node.kind.isPart then some node.toPattern else firstPattern? rest

/-- The elements of an array pattern, with holes as in an array. -/
def patternSlots (filled : Bool) : List (Role × Node) → List (Option Pattern)
  | [] => []
  | (_, node) :: rest =>
    if node.kind.isPart then some node.toPattern :: patternSlots true rest
    else if node.text = "," then
      if filled then patternSlots false rest else none :: patternSlots false rest
    else patternSlots filled rest

/-- The properties of an object pattern. -/
def propertyPatterns : List (Role × Node) → List PropertyPattern
  | [] => []
  | (_, .leaf kind text) :: rest =>
    if kind = .shorthandPropertyIdentifierPattern then
      .property text (.identifier text) :: propertyPatterns rest
    else if kind.isPart then .property text (.unsupported kind.name) :: propertyPatterns rest
    else propertyPatterns rest
  | (_, .branch kind children) :: rest =>
    match kind with
    | .objectAssignmentPattern =>
      .property (((childAs? .left children).map text).getD "") (Node.branch kind children).toPattern
        :: propertyPatterns rest
    | .pairPattern =>
      .property (((childAs? .key children).map propertyKey).getD "")
        ((patternAs? .value children).getD (.unsupported kind.name)) :: propertyPatterns rest
    | .restPattern =>
      .rest ((firstPattern? children).getD (.unsupported kind.name)) :: propertyPatterns rest
    | _ => .property (textOf children) (.unsupported kind.name) :: propertyPatterns rest

end

/-- The parameters of a function. -/
def functionParams (children : Children) : List Pattern :=
  (patternAs? .parameter children).elim (formalParams children) ([·])

/-! Statements. -/

/-- The initializer of the first variable that a declaration declares. -/
def initializer? (children : Children) : Option Expr :=
  match children.find? fun child => child.2.kind == .variableDeclarator with
  | some (_, declarator) => exprAs? .value declarator.children
  | none => none

/-- The statement that a node is. -/
def toStatement (node : Node) : Statement :=
  match node.kind with
  | .functionDeclaration | .generatorFunctionDeclaration => .function (functionParams node.children)
  | .lexicalDeclaration | .variableDeclaration => .variable (initializer? node.children)
  | .expressionStatement =>
    (firstExpr? node.children).elim (.unsupported node.kind.name) .expression
  | kind => .unsupported kind.name

/-- Whether a node of a kind may stand in front of the first statement. -/
def isPreamble (kind : Kind) : Bool := kind == .emptyStatement || kind == .hashBangLine

/-- The first statement of a program. -/
def firstStatement? (program : Node) : Option Statement :=
  (program.children.find? fun child => child.2.kind.isPart && !isPreamble child.2.kind).map
    fun child => child.2.toStatement

end Node

end SnippetBridge.TypeScript
