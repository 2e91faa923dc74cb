import SnippetBridge.Snippet.Declared
import SnippetBridge.TypeScript.Grammar
import SnippetBridge.TypeScript.Snippet

/-!
TypeScript sources: their first statement, and the value that it declares. Later statements have to
be well formed but do not count otherwise.
-/

namespace SnippetBridge.TypeScript

inductive SyntaxError where
  /-- The source as a whole is no program. -/
  | malformed
  deriving DecidableEq

def SyntaxError.message : SyntaxError → String
  | .malformed => "parse error: syntax error in source"

/-- The first statement of a source, if there is any. -/
def statement (source : String) : Except SyntaxError (Option Statement) :=
  match Node.ofSource? source with
  | some program => .ok program.firstStatement?
  | none => .error .malformed

theorem statement_of_ofSource? {source : String} {program : Node}
    (h : Node.ofSource? source = some program) :
    statement source = .ok program.firstStatement? := by
  delta statement
  rw [h]

/-- The value that the first statement of a source declares, if it declares one. -/
def declared (source : String) : Except SyntaxError (Option Value) :=
  (statement source).map fun first => first.bind Statement.declared?

end SnippetBridge.TypeScript
