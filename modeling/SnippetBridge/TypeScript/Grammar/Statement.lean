import SnippetBridge.TypeScript.Grammar.Declaration

/-!
Statements and programs. Braces at the beginning of a statement are the delicate case: on the top
level they are an object wherever they can be one, and a block everywhere else.
-/

namespace SnippetBridge.TypeScript.Grammar

/-! Compound statements. -/

def ifStatement : GrammarRule :=
  .node .ifStatement
    (.all [word "if", parenthesized, statement,
      .optional (.node .clause (.all [word "else", statement]))])

/-- A loop with three parts in its head, of which all may be empty. -/
def forStatement : GrammarRule :=
  let ended : GrammarRule := .any [.all [sequence, mark ";"], mark ";"]
  .node .forStatement
    (.all [word "for", mark "(", .any [lexicalDeclaration, variableDeclaration, ended], ended,
      .optional sequence, mark ")", statement])

/-- A loop over keys or items. -/
def forInStatement : GrammarRule :=
  let fresh : GrammarRule :=
    .all [anyWord ["let", "const", "var"], .any [destructuring, anyName .identifier]]
  .node .forInStatement
    (.all [word "for", .optional (word "await"), mark "(", .any [fresh, pattern, parenthesized],
      anyWord ["in", "of"], sequence, mark ")", statement])

def whileStatement : GrammarRule :=
  .node .whileStatement (.all [word "while", parenthesized, statement])

def doStatement : GrammarRule :=
  .node .doStatement
    (.all [word "do", statement, word "while", parenthesized, .optional (mark ";")])

def switchStatement : GrammarRule :=
  let choice : GrammarRule :=
    .all [.any [.all [word "case", sequence], word "default"], mark ":",
      .many (.all [.notAhead (anyWord ["case", "default"]), statement])]
  .node .switchStatement
    (.all [word "switch", parenthesized,
      .node .body (.all [mark "\x7b", .many choice, mark "\x7d"])])

def tryStatement : GrammarRule :=
  let caught : GrammarRule :=
    .all [mark "(", .any [destructuring, anyName .identifier], .optional annotation, mark ")"]
  .node .tryStatement
    (.all [word "try", block,
      .optional (.node .clause (.all [word "catch", .optional caught, block])),
      .optional (.node .clause (.all [word "finally", block]))])

def withStatement : GrammarRule :=
  .node .withStatement (.all [word "with", parenthesized, statement])

/-! Simple statements. -/

def throwStatement : GrammarRule :=
  .node .throwStatement (.all [word "throw", sequence, semicolon])

def returnStatement : GrammarRule :=
  .node .returnStatement
    (.all [word "return", .any [.all [sameLine, sequence, semicolon], semicolon]])

def jump (kind : Kind) (text : String) : GrammarRule :=
  .node kind
    (.all [word text, .optional (.all [sameLine, anyName .statementIdentifier]), semicolon])

def debuggerStatement : GrammarRule :=
  .node .debuggerStatement (.all [word "debugger", semicolon])

def emptyStatement : GrammarRule := .node .emptyStatement (mark ";")

def labeledStatement : GrammarRule :=
  .node .labeledStatement
    (.all [nameExcept .statementIdentifier (expressionWords ++ statementWords), mark ":",
      statement])

/-- Braces whose first word begins a statement or an expression. At the beginning of a statement
they are no object. -/
def keywordBraces : GrammarRule :=
  .all [mark "\x7b", anyWord (expressionWords ++ statementWords)]

def expressionStatement : GrammarRule :=
  .any [
    .node .expressionStatement (.all [internalModule, .optional semicolon]),
    .node .expressionStatement
      (.all [.notAhead (anyWord statementWords), .notAhead keywordBraces, sequence, semicolon])]

/-- A statement inside another one, where braces are a block if they can be one. -/
def statementRule : GrammarRule :=
  .any [block, emptyStatement, functionDeclaration, lexicalDeclaration, variableDeclaration,
    ifStatement, returnStatement, forStatement, forInStatement, whileStatement, doStatement,
    switchStatement, tryStatement, throwStatement, jump .breakStatement "break",
    jump .continueStatement "continue", debuggerStatement, withStatement, exportStatement,
    importStatement, importAlias, classDeclaration, enumDeclaration, interfaceDeclaration,
    typeAliasDeclaration, ambientDeclaration, moduleDeclaration, labeledStatement,
    expressionStatement]

/-! Programs. -/

/-- Braces that hold nothing or plain names. They are a block and not an object. -/
def plainBraces : GrammarRule :=
  .all [mark "\x7b", .optional (items (anyName .identifier)), mark "\x7d",
    .notAhead (operator "=" "=>")]

/-- A statement that begins with an object. -/
def objectStatement : GrammarRule :=
  .node .expressionStatement
    (.all [next (· == '\x7b'), .notAhead plainBraces, .notAhead keywordBraces, sequence, semicolon])

/-- A statement of the program itself, where braces are an object if they can be one. -/
def programStatement : GrammarRule := .any [objectStatement, statement]

def programRule : GrammarRule :=
  .all [.optional (.token .hashBangLine Token.hashBang), .many programStatement]

end SnippetBridge.TypeScript.Grammar
