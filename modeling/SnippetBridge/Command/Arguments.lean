import SnippetBridge.Command.Basic

/-!
Commands from the words of a command line. The first word names the command; a file and the options
of the command follow in any order. Each may be given once, and after a bare `--` there is no option
any more.
-/

namespace SnippetBridge.Command

/-- The options that take a value. -/
inductive Setting where
  | config
  | absent
  | suffix
  deriving DecidableEq

/-- What one word is by its form. -/
inductive Word where
  | file
  /-- The end of all options. -/
  | bar
  | quotes
  /-- An option whose value is the next word, unless it came with it. -/
  | setting (setting : Setting) (value : Option String)
  | unknown
  deriving DecidableEq

namespace Setting

/-- The option with a name. -/
def named? : String → Option Setting
  | "config" => some .config
  | "none" => some .absent
  | "suffix" => some .suffix
  | _ => none

end Setting

/-- A long option, with its value behind an equals sign or without. -/
def longOption (text : List Char) : Word :=
  let name := String.ofList (text.takeWhile (· != '='))
  let value : Option String :=
    match text.dropWhile (· != '=') with
    | [] => none
    | _ :: value => some (String.ofList value)
  match Setting.named? name with
  | some setting => .setting setting value
  | none => if name = "quotes" ∧ value = none then .quotes else .unknown

/-- A word by its form. A lone dash is a file. -/
def word (text : String) : Word :=
  match text.toList with
  | ['-', '-'] => .bar
  | '-' :: '-' :: long => longOption long
  | ['-', 'c'] => .setting .config none
  | '-' :: 'c' :: '=' :: value => .setting .config (some (String.ofList value))
  | '-' :: 'c' :: value => .setting .config (some (String.ofList value))
  | '-' :: _ :: _ => .unknown
  | _ => .file

/-- What has been given so far. -/
structure Given where
  file : Option String
  format : Format

namespace Given

def empty : Given := ⟨none, ⟨none, false, none, none⟩⟩

def addFile? (given : Given) (name : String) : Option Given :=
  if given.file.isSome then none else some { given with file := some name }

def addQuotes? (given : Given) : Option Given :=
  if given.format.quotes then none
  else some { given with format := { given.format with quotes := true } }

/-- Takes the value of an option. The name of the file of options may not be empty. -/
def addSetting? (given : Given) (setting : Setting) (value : String) : Option Given :=
  match setting with
  | .config =>
    if given.format.config.isSome ∨ value.isEmpty then none
    else some { given with format := { given.format with config := some value } }
  | .absent =>
    if given.format.absent.isSome then none
    else some { given with format := { given.format with absent := some value } }
  | .suffix =>
    if given.format.suffix.isSome then none
    else some { given with format := { given.format with suffix := some value } }

/-- Takes the words of a command, of which some have been given. The value of an option cannot look
like an option itself. -/
def addAll? (given : Given) : List String → Option Given
  | [] => some given
  | text :: rest =>
    match word text with
    | .file => (given.addFile? text).bind fun given => addAll? given rest
    | .bar => rest.foldlM addFile? given
    | .quotes => given.addQuotes?.bind fun given => addAll? given rest
    | .setting setting (some value) =>
      (given.addSetting? setting value).bind fun given => addAll? given rest
    | .setting setting none =>
      match rest with
      | [] => none
      | value :: rest =>
        if word value = .file then
          (given.addSetting? setting value).bind fun given => addAll? given rest
        else none
    | .unknown => none

end Given

/-- The command that the words of a command line give, if they give one. -/
def ofArguments? : List String → Option Command
  | [] => none
  | name :: rest => do
    let given ← Given.empty.addAll? rest
    let file ← given.file
    match name with
    | "extract" => if given.format = Given.empty.format then some (.extract file) else none
    | "render" => some (.render file given.format)
    | "bridge" => some (.bridge file given.format)
    | _ => none

end SnippetBridge.Command
