import SnippetBridge.Rhai.Options
import SnippetBridge.Toml.Reader

/-!
Options in a TOML file. Every key may be left out and then has its standard value; keys and tables
that are no options are ignored.
-/

namespace SnippetBridge.Rhai.Options

/-- The option under a key, if it is there, provided that it has the type of the option. -/
def setting? {α : Type} (table : Toml.Table) (key : String) (read : Toml → Option α) (default : α) :
    Option α :=
  match Entries.find? key table with
  | none => some default
  | some item => read item

def flag? : Toml → Option Bool
  | .boolean b => some b
  | _ => none

def token? : Toml → Option String
  | .string s => some s
  | _ => none

def ofTable? (table : Toml.Table) : Option Options := do
  let quotes ← setting? table "quotes" flag? standard.quotes
  let absent ← setting? table "none" token? standard.absent
  let suffix ← setting? table "suffix" token? standard.suffix
  return { quotes, absent, suffix }

/-- The options of a file's text, if it is a document of options. -/
def ofTomlText? (text : String) : Option Options := (Toml.ofText? text).bind ofTable?

end SnippetBridge.Rhai.Options
