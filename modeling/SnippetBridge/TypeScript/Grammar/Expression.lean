import SnippetBridge.TypeScript.Grammar.Class

/-!
Expressions. Binary operators form a chain to the left whatever they are, because only the outermost
kind of an expression is looked at: it is that of its last operator. A conversion by `as` ends such
a chain in the same way, but what follows `await` takes its conversions with it.
-/

namespace SnippetBridge.TypeScript.Grammar

/-! Functions. -/

/-- A function without a name of its own, or with one that only its body sees. -/
def functionExpression : GrammarRule :=
  let name : GrammarRule := .optional (.role .name (anyName .identifier))
  .any [
    .node .functionExpression
      (.all [.optional (word "async"), word "function", name, callSignature, block]),
    .node .generatorFunction
      (.all [.optional (word "async"), word "function", mark "*", name, callSignature, block])]

def arrowFunction : GrammarRule :=
  let body : GrammarRule := .any [block, expression]
  .any [
    .node .arrowFunction (.all [word "async", .role .parameter identifier, mark "=>", body]),
    .node .arrowFunction (.all [.role .parameter identifier, mark "=>", body]),
    .node .arrowFunction (.all [.optional (word "async"), callSignature, mark "=>", body])]

/-! Objects and arrays. -/

def spread : GrammarRule := .node .spreadElement (.all [mark "...", expression])

def member : GrammarRule :=
  .any [
    .node .pair (.all [.role .key propertyName, mark ":", .role .value expression]),
    spread,
    .node .methodDefinition
      (.all [memberModifiers, .optional (mark "*"), .role .name propertyName, .optional (mark "?"),
        callSignature, block]),
    anyName .shorthandPropertyIdentifier]

def object : GrammarRule := .node .object (.all [mark "\x7b", slots member, mark "\x7d"])

def elements : GrammarRule := slots (.any [spread, expression])

def array : GrammarRule := .node .array (.all [mark "[", elements, mark "]"])

def arguments : GrammarRule := .node .arguments (.all [mark "(", elements, mark ")"])

/-! Expressions without operators. -/

def literalWord (kind : Kind) (text : String) : GrammarRule := .token kind (Token.keyword text)

def metaProperty : GrammarRule :=
  .node .metaProperty
    (.any [.all [word "import", mark ".", word "meta"], .all [word "new", mark ".", word "target"]])

def nonNull : (Kind → Bool) × Kind × Role × GrammarRule :=
  (fun kind => kind != .assignmentExpression && kind != .augmentedAssignmentExpression,
    .nonNullExpression, .plain, nonNullSuffix)

/-- Creation of an object. What is called is a name or a member, so that the first arguments belong
to the creation. -/
def newExpression : GrammarRule :=
  .node .newExpression (.all [word "new",
    .chain (.symbol .primary)
      [(fun _ => true, .memberExpression, .object, memberSuffix),
        (fun _ => true, .subscriptExpression, .object, subscriptSuffix), nonNull],
    .optional typeArguments, .optional arguments])

def primaryRule : GrammarRule :=
  .any [parenthesized, object, array, string, number, template sequence, .token .regex Token.regex,
    literalWord .trueLiteral "true", literalWord .falseLiteral "false",
    literalWord .nullLiteral "null", literalWord .undefined "undefined", literalWord .this "this",
    literalWord .superKeyword "super",
    metaProperty, .all [literalWord .importKeyword "import", next (· == '(')],
    newExpression, functionExpression, classExpression, .all [privateName, .ahead (word "in")],
    identifier]

/-! Operands. -/

/-- Whether members and calls of a node of a kind can be written behind it as it is. -/
def isCallee : Kind → Bool
  | .unaryExpression | .updateExpression | .typeAssertion | .assignmentExpression
  | .augmentedAssignmentExpression => false
  | _ => true

/-- Whether a node of a kind can be assigned to. -/
def isTarget : Kind → Bool
  | .identifier | .undefined | .memberExpression | .subscriptExpression | .nonNullExpression
  | .parenthesizedExpression => true
  | _ => false

def optionalMark : GrammarRule := .token .optionalChain (Token.exactly ['?', '.'])

/-- Whether a character can begin an expression, so that type arguments in front of it are none. -/
def beginsExpression (c : Char) : Bool :=
  isNamePart c || ['"', '\'', '\x60', '\x7b', '[', '(', '\\', '#', '@', '~'].contains c

/-- What is applied to an operand from behind, tightest first. -/
def suffixes : List ((Kind → Bool) × Kind × Role × GrammarRule) :=
  [(isCallee, .memberExpression, .object, memberSuffix),
    (isCallee, .memberExpression, .object,
      .all [optionalMark, .role .property (.any [privateName, anyName .propertyIdentifier])]),
    (isCallee, .subscriptExpression, .object, subscriptSuffix),
    (isCallee, .subscriptExpression, .object, .all [optionalMark, subscriptSuffix]),
    (isCallee, .callExpression, .plain, .all [optionalMark, .optional typeArguments, arguments]),
    (isCallee, .callExpression, .plain,
      .all [.optional typeArguments, .any [arguments, template sequence]]),
    (isCallee, .instantiationExpression, .plain,
      .all [typeArguments, .notAhead (next beginsExpression)]),
    (isTarget, .updateExpression, .plain, .all [sameLine, .any [mark "++", mark "--"]]),
    (isTarget, .assignmentExpression, .left, .all [operator "=" "=>", .role .right expression]),
    (isTarget, .augmentedAssignmentExpression, .left,
      .all [.any (["+=", "-=", "*=", "/=", "%=", "^=", "&=", "|=", ">>=", ">>>=", "<<=", "**=",
        "&&=", "||=", "??="].map mark), .role .right expression])]

def unary : GrammarRule :=
  .node .unaryExpression
    (.all [.any [mark "!", mark "~", operator "-" "-", operator "+" "+",
      anyWord ["typeof", "void", "delete"]], .symbol .tightOperand])

def prefixUpdate : GrammarRule :=
  .node .updateExpression (.all [.any [mark "++", mark "--"], .symbol .tightOperand])

def typeAssertion : GrammarRule :=
  .node .typeAssertion (.all [typeArguments, .symbol .tightOperand])

def conversions : List ((Kind → Bool) × Kind × Role × GrammarRule) :=
  [(fun _ => true, .asExpression, .plain, .all [sameLine, word "as", .any [word "const", type]]),
    (fun _ => true, .satisfiesExpression, .plain, .all [sameLine, word "satisfies", type])]

def awaitExpression : GrammarRule :=
  .node .awaitExpression (.all [word "await", .chain (.symbol .operand) conversions])

def yieldExpression : GrammarRule :=
  .node .yieldExpression (.all [word "yield",
    .any [.all [mark "*", expression], .all [sameLine, expression], .all []]])

/-- An assignment that takes a value apart, or one that declares a resource. -/
def patternAssignment : GrammarRule :=
  .any [
    .node .assignmentExpression
      (.all [.role .left destructuring, operator "=" "=>", .role .right expression]),
    .node .assignmentExpression
      (.all [word "using", sameLine, .role .left identifier, operator "=" "=>",
        .role .right expression])]

/-- An operand, to which the given suffixes apply. -/
def operandOf (applied : List ((Kind → Bool) × Kind × Role × GrammarRule)) : GrammarRule :=
  .any [arrowFunction, yieldExpression, awaitExpression, patternAssignment,
    .chain (.any [unary, prefixUpdate, typeAssertion, .symbol .primary]) applied]

def tightOperandRule : GrammarRule := operandOf suffixes

def operandRule : GrammarRule := operandOf (nonNull :: suffixes)

/-! Expressions. -/

def binaryOperator : GrammarRule :=
  .any [operator ">>>" "=", operator ">>" ">=", operator "<<" "=", operator "**" "=", mark "===",
    mark "!==", mark "==", mark "!=", mark "<=", mark ">=", operator "&&" "=", operator "||" "=",
    operator "??" "=", mark "<", mark ">", operator "+" "+=", operator "-" "-=", operator "*" "=",
    operator "/" "=", operator "%" "=", operator "&" "=", operator "|" "=", operator "^" "=",
    anyWord ["in", "instanceof"]]

/-- A chain of operators that begins with a given operand. -/
def binaryFrom (first : GrammarRule) : GrammarRule :=
  .chain first
    ((fun _ => true, .binaryExpression, .left,
      .all [binaryOperator, .role .right (.symbol .operand)]) :: conversions)

/-- A condition or less. In front of the colon of a condition, parentheses with a colon behind them
may look like the parameters of an arrow function with a result type; they are read as parentheses
if the colon would be missing otherwise. -/
def conditionFrom (first : GrammarRule) : GrammarRule :=
  let plain : GrammarRule := .chain (.symbol .primary) (nonNull :: suffixes)
  .chain (binaryFrom first)
    [(fun _ => true, .ternaryExpression, .plain,
      .all [.token .mark Token.conditionMark,
        .any [.all [expression, next (· == ':')], .all [next (· == '('), binaryFrom plain]],
        mark ":", expression])]

def expressionRule : GrammarRule := conditionFrom (.symbol .operand)

end SnippetBridge.TypeScript.Grammar
