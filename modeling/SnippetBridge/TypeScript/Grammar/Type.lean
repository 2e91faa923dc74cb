import SnippetBridge.TypeScript.Grammar.Basic

/-!
Types, and the lists of type parameters and arguments. Types never count for what a snippet
declares; they are read to know where they end.
-/

namespace SnippetBridge.TypeScript.Grammar

def typeArguments : GrammarRule :=
  .node .typeNode (.all [operator "<" "<=", items type, .optional (mark ","), mark ">"])

def typeParameter : GrammarRule :=
  .all [modifiers ["const", "in", "out"] (fun c => isNameStart c), anyName .identifier,
    .optional (.all [word "extends", type]), .optional (.all [operator "=" "=>", type])]

def typeParameters : GrammarRule :=
  .node .typeNode (.all [mark "<", items typeParameter, .optional (mark ","), mark ">"])

def annotation : GrammarRule := .node .typeNode (.all [mark ":", type])

/-- A dotted name, possibly with type arguments. -/
def typeName : GrammarRule :=
  .all [anyName .identifier, .many (.all [mark ".", anyName .identifier]),
    .optional (.all [sameLine, typeArguments])]

/-- What may stand behind the colon or arrow that gives the type of a result. -/
def resultType : GrammarRule :=
  .any [.all [word "asserts", sameLine, anyName .identifier, .optional (.all [word "is", type])],
    .all [anyName .identifier, sameLine, word "is", type], type]

def returnAnnotation : GrammarRule := .node .typeNode (.all [mark ":", resultType])

/-- The parameters in a type. Their patterns are those of functions, without default values. -/
def typeFormals : GrammarRule :=
  let parameter : GrammarRule :=
    .all [.optional (mark "..."), .any [pattern, anyName .identifier], .optional (mark "?"),
      .optional annotation]
  .node .formalParameters
    (.all [mark "(", .optional (.all [items parameter, .optional (mark ",")]), mark ")"])

def signature : GrammarRule :=
  .all [.optional typeParameters, typeFormals, .optional returnAnnotation]

def arrowType : GrammarRule :=
  .any [.all [.optional typeParameters, typeFormals, mark "=>", resultType],
    .all [.optional (word "abstract"), word "new", .optional typeParameters, typeFormals, mark "=>",
      type]]

def signs : GrammarRule := .optional (.any [mark "+", mark "-"])

/-- Words that may stand in front of the key of a member. -/
def memberWords : List String :=
  ["public", "private", "protected", "static", "override", "readonly", "abstract", "declare",
    "accessor", "async", "get", "set"]

/-- A member of an object type. -/
def typeMember : GrammarRule :=
  .any [
    .all [signs, .optional (word "readonly"), mark "[", anyName .identifier, word "in", type,
      .optional (.all [word "as", type]), mark "]", .optional (.all [signs, mark "?"]),
      .optional annotation],
    .all [signs, modifiers memberWords beginsKey, mark "[", anyName .identifier, annotation,
      mark "]", .optional annotation],
    .all [.optional (word "abstract"), word "new", signature],
    signature,
    .all [modifiers memberWords beginsKey, .optional (mark "*"), propertyName, .optional (mark "?"),
      .any [signature, .optional annotation]]]

def objectType : GrammarRule :=
  .all [mark "\x7b",
    .many (.any [.all [typeMember, .any [mark ",", semicolon]], mark ";", mark ","]), mark "\x7d"]

def tupleType : GrammarRule :=
  .all [mark "[",
    slots (.all [.optional (mark "..."),
      .any [.all [anyName .identifier, .optional (mark "?"), mark ":", type],
        .all [type, .optional (mark "?")]]]),
    mark "]"]

/-- A type without operators. -/
def primaryType : GrammarRule :=
  .any [objectType, tupleType, .all [mark "(", type, mark ")"], string, template type, number,
    .all [mark "-", number],
    .all [word "typeof", .any [.all [word "import", mark "(", type, mark ")"], anyName .identifier],
      .many (.all [mark ".", .any [anyName .identifier, privateName]]),
      .optional (.all [sameLine, typeArguments])],
    .all [word "import", mark "(", items type, mark ")",
      .many (.all [mark ".", anyName .identifier]), .optional typeArguments],
    typeName]

/-- Whether a character can begin a type. -/
def beginsType (c : Char) : Bool :=
  isNamePart c || ['\x7b', '[', '(', '"', '\'', '\x60', '-', '\\'].contains c

def prefixedType : GrammarRule :=
  .any [
    .all [anyWord ["keyof", "unique", "readonly"], next beginsType, .symbol .prefixedType],
    .all [word "infer", anyName .identifier,
      .optional (.all [word "extends", .symbol .prefixedType, .notAhead (mark "?")])],
    .all [primaryType, .many (.all [sameLine, mark "[", .optional type, mark "]"])]]

def unionPart : GrammarRule := .any [arrowType, .symbol .prefixedType]

def typeRule : GrammarRule :=
  .all [.optional (.any [mark "|", mark "&"]), unionPart,
    .many (.all [.any [operator "|" "|=", operator "&" "&="], unionPart]),
    .optional (.all [sameLine, word "extends", type, mark "?", type, mark ":", type])]

end SnippetBridge.TypeScript.Grammar
