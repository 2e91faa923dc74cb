import SnippetBridge.Command.Run

/-!
The program: reads the files that the command line names and writes the answer.
-/

namespace SnippetBridge

/-- What can be read from somewhere, if it is text. -/
def readable? (read : IO String) : IO (Option String) := do
  try return some (← read)
  catch _ => return none

/-- The texts that a command reads. -/
def inputsOf (command : Command) : IO Command.Inputs := do
  let standard ←
    if command.subject = "-" then readable? (do (← IO.getStdin).readToEnd) else pure none
  let files ← (command.subject :: command.config?.toList).mapM fun (file : String) => do
    return (file, ← readable? (IO.FS.readFile file))
  return ⟨standard, fun file => (files.find? fun known => known.1 == file).bind Prod.snd⟩

end SnippetBridge

open SnippetBridge in
/-- Exits with the status of the failure, if there is one. -/
def main (arguments : List String) : IO UInt32 := do
  let inputs ← match Command.ofArguments? arguments with
    | some command => inputsOf command
    | none => pure ⟨none, fun _ => none⟩
  match Command.answer inputs arguments with
  | .ok line =>
    IO.println line
    return 0
  | .error failure =>
    IO.eprintln ("Error: " ++ failure.message)
    return failure.status.toUInt32
