import SnippetBridge.TypeScript.Grammar.Expression

/-!
Declarations: variables, functions, classes, types and modules, and what imports and exports them.
-/

namespace SnippetBridge.TypeScript.Grammar

/-! Variables and functions. -/

def declarator : GrammarRule :=
  .node .variableDeclarator
    (.all [.role .name (.any [destructuring, anyName .identifier]), .optional (operator "!" "="),
      .optional annotation, .optional initializer])

def declarators : GrammarRule := .all [items declarator, semicolon]

def lexicalDeclaration : GrammarRule :=
  .node .lexicalDeclaration (.all [anyWord ["let", "const"], declarators])

def variableDeclaration : GrammarRule :=
  .node .variableDeclaration (.all [word "var", declarators])

def functionDeclaration : GrammarRule :=
  .any [
    .node .functionDeclaration
      (.all [.optional (word "async"), word "function", declared, callSignature, block]),
    .node .generatorFunctionDeclaration
      (.all [.optional (word "async"), word "function", mark "*", declared, callSignature, block]),
    .node .functionSignature
      (.all [.optional (word "async"), word "function", .optional (mark "*"), declared,
        callSignature, .notAhead (mark "\x7b"), semicolon])]

def classDeclaration : GrammarRule :=
  .any [
    .node .classDeclaration (.all [.many decorator, word "class", className, classRest]),
    .node .abstractClassDeclaration
      (.all [.many decorator, word "abstract", word "class", className, classRest])]

/-! Types. -/

def interfaceDeclaration : GrammarRule :=
  .node .interfaceDeclaration
    (.all [word "interface", declared, .optional typeParameters,
      .optional (.all [word "extends", items type]), objectType])

def typeAliasDeclaration : GrammarRule :=
  .node .typeAliasDeclaration
    (.all [word "type", declared, .optional typeParameters, operator "=" "=>", type, semicolon])

def enumDeclaration : GrammarRule :=
  .node .enumDeclaration
    (.all [.optional (word "const"), word "enum", declared,
      .node .body
        (.all [mark "\x7b", slots (.all [propertyName, .optional initializer]), mark "\x7d"])])

/-! Modules. -/

def dottedName : GrammarRule :=
  .all [anyName .identifier, .many (.all [mark ".", anyName .identifier])]

def moduleDeclaration : GrammarRule :=
  .node .moduleDeclaration
    (.all [word "module", .any [.all [string, .optional block], .all [dottedName, block]]])

def internalModule : GrammarRule :=
  .node .internalModule (.all [word "namespace", .any [string, dottedName], block])

/-- The names in braces of an import or export. -/
def specifiers : GrammarRule :=
  let external : GrammarRule := .any [anyName .identifier, string]
  let renamed : GrammarRule := .all [external, .optional (.all [word "as", external])]
  .node .clause
    (.all [mark "\x7b",
      slots (.any [.all [anyWord ["type", "typeof"], renamed], renamed]), mark "\x7d"])

def source : GrammarRule :=
  .all [word "from", string, .optional (.all [anyWord ["with", "assert"], object])]

def importClause : GrammarRule :=
  let group : GrammarRule := .any [.all [mark "*", word "as", anyName .identifier], specifiers]
  .any [group, .all [anyName .identifier, .optional (.all [mark ",", group])]]

def importStatement : GrammarRule :=
  let required : GrammarRule :=
    .all [anyName .identifier, operator "=" "=>", word "require", mark "(", string, mark ")"]
  let target : GrammarRule := .any [.all [importClause, source], required]
  .node .importStatement
    (.all [word "import",
      .any [.all [anyWord ["type", "typeof"], target], target,
        .all [string, .optional (.all [anyWord ["with", "assert"], object])]],
      semicolon])

def importAlias : GrammarRule :=
  .node .importAlias
    (.all [word "import", anyName .identifier, operator "=" "=>", dottedName, semicolon])

/-- What may be declared where it is also exported. -/
def declaration : GrammarRule :=
  .any [functionDeclaration, classDeclaration, enumDeclaration, lexicalDeclaration,
    variableDeclaration, interfaceDeclaration, typeAliasDeclaration, moduleDeclaration,
    .all [internalModule, .optional (mark ";")], importAlias]

def ambientDeclaration : GrammarRule :=
  .node .ambientDeclaration
    (.all [word "declare", .any [declaration, .all [word "global", block]]])

def exportStatement : GrammarRule :=
  let everything : GrammarRule :=
    .all [mark "*", .optional (.all [word "as", .any [anyName .identifier, string]]), source]
  .node .exportStatement
    (.all [.many decorator, word "export",
      .any [
        .all [.optional (word "type"), .any [everything, .all [specifiers, .optional source]],
          semicolon],
        .all [word "default",
          .any [functionDeclaration, classDeclaration, interfaceDeclaration,
            .all [expression, semicolon]]],
        .all [operator "=" "=>", expression, semicolon],
        .all [word "as", word "namespace", anyName .identifier, semicolon],
        ambientDeclaration, declaration]])

end SnippetBridge.TypeScript.Grammar
