import SnippetBridge.Command.Arguments
import SnippetBridge.Rhai.Options.Toml
import SnippetBridge.Rhai.Walk
import SnippetBridge.Text.Inspected
import SnippetBridge.TypeScript.Source
import SnippetBridge.Value.Json

/-!
What commands do, given the texts of the files that they read. The snippet or document is looked at
before the options, so its faults are the ones that are reported.
-/

namespace SnippetBridge.Command

/-- Why a command gives no output. -/
inductive Failure where
  /-- The command line is no command. -/
  | usage
  | unreadable (file : String)
  | source (error : TypeScript.SyntaxError)
  /-- The snippet in a file declares no value. -/
  | unrecognized (file : String)
  | document (error : Json.Error)
  /-- A file has no options, or faulty ones. -/
  | config (file : String)
  /-- A value has no literal. -/
  | literal (error : Rhai.RenderError)
  deriving DecidableEq

namespace Failure

/-- The exit status of the program. -/
def status : Failure → Nat
  | .usage => 2
  | _ => 1

/-- The message to the user. -/
def message : Failure → String
  | .usage =>
    "usage: (extract | render | bridge) FILE [-c FILE] [--quotes] [--none TOKEN] [--suffix TEXT]"
  | .unreadable file => "cannot read " ++ Text.inspect file
  | .source .malformed => "Parse(\"syntax error in source\")"
  | .unrecognized file => Text.inspect (file ++ ": snippet not recognized")
  | .document .syntaxFault => "malformed JSON"
  | .document .shapeFault => "unexpected JSON"
  | .config file => "no valid options in " ++ Text.inspect file
  | .literal .circularReference => "CircularReference"
  | .literal .exhausted => "Exhausted"

end Failure

/-- The texts that a command can read. -/
structure Inputs where
  /-- Standard input, if it is text. -/
  standard : Option String
  /-- The text of each file that can be read. -/
  file? : String → Option String

namespace Inputs

/-- The text of the file that a command is about. -/
def subject (inputs : Inputs) (file : String) : Except Failure String :=
  match if file = "-" then inputs.standard else inputs.file? file with
  | some text => .ok text
  | none => .error (.unreadable file)

end Inputs

/-- The value that the snippet in a file declares. -/
def declared (inputs : Inputs) (file : String) : Except Failure Value := do
  match TypeScript.declared (← inputs.subject file) with
  | .ok (some value) => return value
  | .ok none => throw (.unrecognized file)
  | .error error => throw (.source error)

/-- The options that a command asks for. -/
def Format.options (inputs : Inputs) (format : Format) : Except Failure Rhai.Options := do
  match format.config with
  | none => return format.apply .standard
  | some file =>
    match (inputs.file? file).bind Rhai.Options.ofTomlText? with
    | some base => return format.apply base
    | none => throw (.config file)

/-- The literal of a value in the format that a command asks for. -/
def Format.literal (inputs : Inputs) (format : Format) (value : Value) : Except Failure String := do
  (Rhai.renderValue (← format.options inputs) value).mapError .literal

/-- The line that a command writes. -/
def run (inputs : Inputs) : Command → Except Failure String
  | .extract file => do
    let value ← declared inputs file
    return value.toJson.pretty
  | .render file format => do
    match Value.ofText (← inputs.subject file) with
    | .ok value => format.literal inputs value
    | .error error => throw (.document error)
  | .bridge file format => do
    let value ← declared inputs file
    format.literal inputs value

/-- The line that the program writes when it is started with the given words. -/
def answer (inputs : Inputs) (arguments : List String) : Except Failure String :=
  match ofArguments? arguments with
  | some command => run inputs command
  | none => .error .usage

end SnippetBridge.Command
