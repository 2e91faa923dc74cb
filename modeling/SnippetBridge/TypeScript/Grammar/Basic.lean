import SnippetBridge.TypeScript.Rule
import SnippetBridge.TypeScript.Token

/-!
The vocabulary of the grammar: its symbols, which are the constructs that nest in one another, and
the rules for tokens, names, strings and lists.
-/

namespace SnippetBridge.TypeScript

inductive Symbol where
  | statement
  /-- An expression without commas at its top. -/
  | expression
  /-- What stands between binary operators. -/
  | operand
  /-- An operand that does not end in a non-null mark of its own. -/
  | tightOperand
  /-- An expression without operators. -/
  | primary
  | pattern
  | type
  /-- A type without unions, conditions and arrows at its top. -/
  | prefixedType
  deriving DecidableEq

namespace Grammar

open Text (Scan)

abbrev GrammarRule := Rule Symbol

def statement : GrammarRule := .symbol .statement

def expression : GrammarRule := .symbol .expression

def pattern : GrammarRule := .symbol .pattern

def type : GrammarRule := .symbol .type

/-! Marks and words. -/

def mark (text : String) : GrammarRule := .token .mark (Token.exactly text.toList)

/-- A mark that none of the characters of `longer` may follow. -/
def operator (text longer : String) : GrammarRule :=
  .token .mark (Token.operator text.toList longer.toList)

/-- A mark that follows at once. -/
def adjacentMark (text : String) : GrammarRule := .adjacent .mark (Token.exactly text.toList)

def word (text : String) : GrammarRule := .token .mark (Token.keyword text)

def anyWord (texts : List String) : GrammarRule := .any (texts.map word)

/-- A condition on the first character of the next token. -/
def next (p : Char → Bool) : GrammarRule := .ahead (.token .mark (do return [← Scan.one p]))

def sameLine : GrammarRule := .check fun cs => !Trivia.breaksLine cs

/-! Names. -/

/-- Words with which an expression can begin, none of them a name there. -/
def expressionWords : List String :=
  ["function", "class", "new", "import", "typeof", "void", "delete", "this", "super", "true",
    "false", "null", "undefined", "await", "yield"]

/-- Words with which a statement can begin, none of them a name there. -/
def statementWords : List String :=
  ["if", "for", "while", "do", "switch", "try", "throw", "return", "break", "continue", "debugger",
    "with", "var", "const", "enum", "interface", "abstract", "export"]

/-- A name where no word has another meaning. -/
def anyName (kind : Kind) : GrammarRule := .token kind Token.name

def nameExcept (kind : Kind) (reserved : List String) : GrammarRule :=
  .token kind (Token.nameExcept reserved)

/-- A name that stands for a variable. -/
def identifier : GrammarRule := nameExcept .identifier expressionWords

/-- A name that is declared. -/
def declared : GrammarRule := .role .name (anyName .identifier)

/-! Lists. -/

/-- Items with commas between them, at least one. -/
def items (item : GrammarRule) : GrammarRule := .all [item, .many (.all [mark ",", item])]

/-- Items with commas between them; any of them may be left out. -/
def slots (item : GrammarRule) : GrammarRule := items (.optional item)

/-- Expressions with commas between them; two or more form a sequence. -/
def sequence : GrammarRule :=
  .chain expression
    [(fun kind => kind != .sequenceExpression, .sequenceExpression, .plain,
      .all [mark ",", items expression])]

/-! Strings and templates. -/

def quoted (quote : Char) : GrammarRule :=
  .node .string (.all [mark quote.toString,
    .many (.any [.adjacent .stringFragment (Token.fragment quote),
      .adjacent .escapeSequence Token.escape]),
    adjacentMark quote.toString])

def string : GrammarRule := .any [quoted '"', quoted '\'']

/-- A template whose substitutions hold what `inner` reads. -/
def template (inner : GrammarRule) : GrammarRule :=
  .node .templateString (.all [mark "\x60",
    .many (.any [.adjacent .stringFragment Token.templateText,
      .adjacent .escapeSequence Token.escape,
      .node .templateSubstitution (.all [adjacentMark "$\x7b", inner, mark "\x7d"])]),
    adjacentMark "\x60"])

def number : GrammarRule := .token .number Token.number

/-! The end of a statement. -/

/-- Whether a statement ends before a text without a semicolon: at the end of the source, before a
closing brace, and at a line break, unless the next line goes on with an operator. -/
def endsStatement (cs : List Char) : Bool :=
  match (Trivia.skip cs).2 with
  | [] => true
  | '}' :: _ => true
  | c :: rest => Trivia.breaksLine cs && begins c rest
where
  /-- Whether a new statement can begin with the given characters. -/
  begins (c : Char) (rest : List Char) : Bool :=
    match c with
    | '\x60' | ',' | '.' | ';' | '*' | '%' | '>' | '<' | '=' | '?' | '^' | '|' | '&' | '/' | ':' =>
      false
    | '+' => rest.head? == some '+'
    | '-' => rest.head? == some '-'
    | '!' => rest.head? != some '='
    | 'i' =>
      let letters := 'i' :: rest.takeWhile Char.isAlpha
      letters != ['i', 'n'] && letters != "instanceof".toList
    | _ => true

def semicolon : GrammarRule := .any [mark ";", .check endsStatement]

def block : GrammarRule := .node .statementBlock (.all [mark "\x7b", .many statement, mark "\x7d"])

def parenthesized : GrammarRule :=
  .node .parenthesizedExpression (.all [mark "(", sequence,
    .optional (.node .typeNode (.all [mark ":", type])), mark ")"])

/-! Keys of properties. -/

def computedName : GrammarRule :=
  .node .computedPropertyName (.all [mark "[", expression, mark "]"])

def privateName : GrammarRule := .token .privatePropertyIdentifier Token.privateName

def propertyName : GrammarRule :=
  .any [anyName .propertyIdentifier, privateName, string, number, computedName]

/-- Whether a character can begin the key of a property. -/
def beginsKey (c : Char) : Bool :=
  isNamePart c || ['\\', '"', '\'', '[', '#', '.', '*'].contains c

/-- Words in front of a key. A word that no key follows is itself the key. -/
def modifiers (words : List String) (begins : Char → Bool) : GrammarRule :=
  .many (.all [anyWord words, next begins])

end Grammar

end SnippetBridge.TypeScript
