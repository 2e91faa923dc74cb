import SnippetBridge.TypeScript.Grammar.Type

/-!
Patterns and parameters, which bind names.
-/

namespace SnippetBridge.TypeScript.Grammar

def initializer : GrammarRule := .all [operator "=" "=>", .role .value expression]

/-- A pattern with or without a default value. -/
def defaulted : GrammarRule :=
  .chain pattern
    [(fun kind => kind != .assignmentPattern && kind != .restPattern, .assignmentPattern, .left,
      .all [operator "=" "=>", .role .right expression])]

def restPattern : GrammarRule := .node .restPattern (.all [mark "...", pattern])

def shorthandPattern : GrammarRule := anyName .shorthandPropertyIdentifierPattern

/-- A pattern that takes a value apart. -/
def takesApart : GrammarRule := .all [next fun c => c == '\x7b' || c == '[', pattern]

/-- A property of an object pattern. Defaults are read for patterns as well as for names, though no
valid program has them there. -/
def propertyPattern : GrammarRule :=
  .any [
    .node .pairPattern (.all [.role .key propertyName, mark ":", .role .value defaulted]),
    restPattern,
    .node .objectAssignmentPattern
      (.all [.role .left (.any [takesApart, shorthandPattern]), operator "=" "=>",
        .role .right expression]),
    shorthandPattern]

def objectPattern : GrammarRule :=
  .node .objectPattern (.all [mark "\x7b", slots propertyPattern, mark "\x7d"])

def arrayPattern : GrammarRule :=
  .node .arrayPattern (.all [mark "[", slots defaulted, mark "]"])

def destructuring : GrammarRule := .any [objectPattern, arrayPattern]

def memberSuffix : GrammarRule :=
  .all [operator "." ".", .role .property (.any [privateName, anyName .propertyIdentifier])]

def subscriptSuffix : GrammarRule := .all [mark "[", sequence, mark "]"]

def nonNullSuffix : GrammarRule := .all [sameLine, operator "!" "="]

/-- What may be assigned to: a pattern, a name, or a member of something that has a name. -/
def patternRule : GrammarRule :=
  .any [destructuring, restPattern,
    .chain
      (.any [.token .undefined (Token.keyword "undefined"), identifier,
        .node .memberExpression
          (.all [.role .object (.any [.token .this (Token.keyword "this"),
            .token .superKeyword (Token.keyword "super")]), memberSuffix])])
      [(fun _ => true, .memberExpression, .object, memberSuffix),
        (fun _ => true, .subscriptExpression, .object, subscriptSuffix),
        (fun _ => true, .nonNullExpression, .plain, nonNullSuffix)]]

/-- The name that a decorator begins with and what is applied to it. -/
def decorator : GrammarRule :=
  .all [mark "@", .any [parenthesized,
    .all [anyName .identifier, .many (.all [mark ".", anyName .identifier]),
      .optional typeArguments,
      .optional (.node .arguments (.all [mark "(", slots expression, mark ")"]))]]]

/-- Whether a character can begin the pattern of a parameter. -/
def beginsPattern (c : Char) : Bool := isNameStart c || c == '\x7b' || c == '['

/-- What a parameter binds, with what stands in front of it. -/
def parameterTarget : GrammarRule :=
  .all [.many decorator,
    modifiers ["public", "private", "protected", "override", "readonly"] beginsPattern,
    .role .pattern (.any [.token .this (Token.keyword "this"), pattern])]

def parameter : GrammarRule :=
  .any [
    .node .optionalParameter
      (.all [parameterTarget, mark "?", .optional annotation, .optional initializer]),
    .node .requiredParameter (.all [parameterTarget, .optional annotation, .optional initializer])]

def formalParameters : GrammarRule :=
  .node .formalParameters
    (.all [mark "(", .optional (.all [items parameter, .optional (mark ",")]), mark ")"])

def callSignature : GrammarRule :=
  .all [.optional typeParameters, .role .parameters formalParameters, .optional returnAnnotation]

end SnippetBridge.TypeScript.Grammar
