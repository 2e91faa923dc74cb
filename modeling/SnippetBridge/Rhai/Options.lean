/-!
What can be chosen about Rhai literals: how keys look, what stands for a value that has no literal,
and what comes after the whole.
-/

namespace SnippetBridge.Rhai

structure Options where
  /-- Whether keys are written as quoted strings. -/
  quotes : Bool
  /-- What is written for a value without a literal. -/
  absent : String
  /-- What follows the whole literal. -/
  suffix : String
  deriving DecidableEq

namespace Options

def standard : Options where
  quotes := false
  absent := "()"
  suffix := ";"

instance : Inhabited Options := ⟨standard⟩

end Options

end SnippetBridge.Rhai
