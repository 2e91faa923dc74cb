import SnippetBridge.TypeScript.Grammar.Statement

/-!
The grammar of programs and what it reads. Every symbol has one rule. A source is read only if the
program takes all of it, so that a fault in any statement is a fault of the source.
-/

namespace SnippetBridge.TypeScript

namespace Grammar

def rule : Symbol → GrammarRule
  | .statement => statementRule
  | .expression => expressionRule
  | .operand => operandRule
  | .tightOperand => tightOperandRule
  | .primary => primaryRule
  | .pattern => patternRule
  | .type => typeRule
  | .prefixedType => prefixedType

/-- Each character is read inside at most all symbols once more than the one before it. -/
def depth (cs : List Char) : Nat := 9 * (cs.length + 1)

end Grammar

/-- The tree of a source, if the whole source is a program. -/
def Node.ofSource? (source : String) : Option Node := do
  let cs := source.toList
  let read := Rule.read Grammar.rule (Grammar.depth cs)
  let (children, rest) ← (Rule.parse read Grammar.programRule) cs
  let (trailing, rest) := Trivia.skip rest
  if rest.isEmpty then return .branch .program (children ++ trailing) else none

end SnippetBridge.TypeScript
