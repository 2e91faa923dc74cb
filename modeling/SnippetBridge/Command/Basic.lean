import SnippetBridge.Rhai.Options

/-!
Commands: what the program can be told to do. A command names one file that it is about, and how
literals are to be formatted if it writes one.
-/

namespace SnippetBridge

/-- How literals are to be formatted, as far as the command says. -/
structure Command.Format where
  /-- A file of options that hold unless the command says otherwise. -/
  config : Option String
  quotes : Bool
  absent : Option String
  suffix : Option String
  deriving DecidableEq

inductive Command where
  /-- Writes the value that a snippet declares as JSON. -/
  | extract (file : String)
  /-- Writes a JSON document as a literal. -/
  | render (file : String) (format : Command.Format)
  /-- Writes the value that a snippet declares as a literal. -/
  | bridge (file : String) (format : Command.Format)
  deriving DecidableEq

namespace Command

/-- Options with what the command says on top of them. -/
def Format.apply (format : Format) (base : Rhai.Options) : Rhai.Options where
  quotes := base.quotes || format.quotes
  absent := format.absent.getD base.absent
  suffix := format.suffix.getD base.suffix

/-- The file that a command is about. A lone dash stands for standard input. -/
def subject : Command → String
  | .extract file => file
  | .render file _ => file
  | .bridge file _ => file

/-- The file of options that a command names. -/
def config? : Command → Option String
  | .extract _ => none
  | .render _ format => format.config
  | .bridge _ format => format.config

end Command

end SnippetBridge
