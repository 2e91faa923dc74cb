import SnippetBridge.Json.Decoding
import SnippetBridge.Json.Printer
import SnippetBridge.Rhai.Options

/-!
Options in JSON. Every field may be left out and then has its standard value.
-/

namespace SnippetBridge.Rhai.Options

def fieldNames : List String := ["quotes", "none", "suffix"]

/-- Whether a value has the type of the field that it is given for. -/
def fits (name : String) : Json → Bool
  | .bool _ => name == "quotes"
  | .string _ => name == "none" || name == "suffix"
  | _ => false

def flag (default : Bool) : Option Json → Bool
  | some (.bool b) => b
  | _ => default

def token (default : String) : Option Json → String
  | some (.string s) => s
  | _ => default

/-- Options with the given fields, in the order of `fieldNames`. -/
def ofFields : List (Option Json) → Options
  | [quotes, absent, suffix] =>
    ⟨flag standard.quotes quotes, token standard.absent absent, token standard.suffix suffix⟩
  | _ => standard

def ofJsonText (text : String) : Except Json.Error Options :=
  ((Json.draft text).decodeRecord fieldNames false fits).map ofFields

def toJson (options : Options) : Json :=
  .object [("quotes", .bool options.quotes), ("none", .string options.absent),
    ("suffix", .string options.suffix)]

end SnippetBridge.Rhai.Options
