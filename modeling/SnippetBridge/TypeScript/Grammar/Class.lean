import SnippetBridge.TypeScript.Grammar.Binding

/-!
Classes: what they extend and implement, and their members.
-/

namespace SnippetBridge.TypeScript.Grammar

def memberModifiers : GrammarRule := modifiers memberWords beginsKey

/-- The end of a member without a body. -/
def memberEnd : GrammarRule := .any [mark ",", semicolon]

/-- A method, an accessor or a signature of one. -/
def classMethod : GrammarRule := .all [callSignature, .any [block, memberEnd]]

def classField : GrammarRule := .all [.optional annotation, .optional initializer, memberEnd]

def classMember : GrammarRule :=
  .any [mark ";",
    .all [word "static", block],
    .all [.many decorator, memberModifiers, .optional (mark "*"), propertyName,
      .optional (.any [mark "?", mark "!"]), .any [classMethod, classField]],
    .all [memberModifiers, mark "[", anyName .identifier, annotation, mark "]",
      .optional annotation, memberEnd]]

def classBody : GrammarRule :=
  .node .body (.all [mark "\x7b", .many classMember, mark "\x7d"])

def heritage : GrammarRule :=
  .all [.optional (.all [word "extends", items (.all [.symbol .operand, .optional typeArguments])]),
    .optional (.all [word "implements", items type])]

/-- A class from its type parameters on. -/
def classRest : GrammarRule := .all [.optional typeParameters, heritage, classBody]

def className : GrammarRule := .role .name (nameExcept .identifier ["extends", "implements"])

def classExpression : GrammarRule :=
  .node .classExpression (.all [.many decorator, word "class", .optional className, classRest])

end SnippetBridge.TypeScript.Grammar
