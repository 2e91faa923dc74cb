import SnippetBridge.Text.Alphabetic
import SnippetBridge.Text.Numeric

/-!
Dotted paths such as `app.plugin.method`. A path is split at its dots into segments; it is well
formed when every segment is a name.
-/

namespace SnippetBridge.DottedPath

/-- The first segment and the ones after it. Adjacent, leading and trailing dots give empty
segments. -/
def split : List Char → List Char × List (List Char)
  | [] => ([], [])
  | c :: cs =>
    let (first, rest) := split cs
    if c = '.' then ([], first :: rest) else (c :: first, rest)

def segments (path : String) : List (List Char) :=
  let (first, rest) := split path.toList
  first :: rest

def isNameStart (c : Char) : Bool := Text.isAlphabetic c || c == '_' || c == '$'

def isNamePart (c : Char) : Bool := isNameStart c || Text.isNumeric c

def isName : List Char → Bool
  | [] => false
  | c :: cs => isNameStart c && cs.all isNamePart

def isWellFormed (path : String) : Bool := (segments path).all isName

end SnippetBridge.DottedPath
