import SnippetBridge.Toml.Number

/-!
Reading TOML documents. A document is first scanned into its sections, each a header with the values
under it; only then are the sections put together, because whether a key may be added depends on
what came before and not on how it is written.
-/

namespace SnippetBridge.Toml

namespace Grammar

open Text (Scan)

def boolean : Scan Toml :=
  (do Scan.word "true"; return .boolean true) <|> (do Scan.word "false"; return .boolean false)

/-- Items with commas between them, and one more comma behind the last item if `trailing`. -/
def commaList {α : Type} (trailing : Bool) (item : Scan α) : Scan (List α) := do
  match ← Scan.option item with
  | none => return []
  | some first => do
    let rest ← Scan.many (do let _ ← Scan.char ','; item)
    if trailing then discard (Scan.option (do let _ ← Scan.char ','; gap))
    return first :: rest

/-- A value inside fewer than `room` arrays and inline tables. -/
def value : Nat → Scan Toml
  | 0 => failure
  | room + 1 =>
    (do return .string (← string)) <|> boolean <|> number
    <|> (do
      let _ ← Scan.char '['
      gap
      let items ← commaList true do
        gap
        let item ← value room
        gap
        return item
      let _ ← Scan.char ']'
      return .array items)
    <|> (do
      let _ ← Scan.char '{'
      blanks
      let pairs ← commaList false do
        let path ← key
        let _ ← Scan.char '='
        blanks
        let item ← value room
        blanks
        return (path, item)
      let _ ← Scan.char '}'
      match putAll? pairs [] with
      | some entries => return .table .inline entries
      | none => failure)

/-- A key and its value on a line. -/
def assignment : Scan (List String × Toml) := do
  let path ← key
  let _ ← Scan.char '='
  blanks
  let item ← value depthLimit
  lineEnd
  return (path, item)

/-- Blank lines and comments between the lines that matter. -/
def idleLines : Scan Unit := do
  let _ ← Scan.many
    ((discard (Scan.run1 isBlank)) <|> newline <|> (do comment; newline <|> Scan.atEnd))

def assignments : Scan (List (List String × Toml)) := Scan.many do
  let pair ← assignment
  idleLines
  return pair

/-- A header in brackets, doubled for one more table of an array. -/
def header : Scan (List String × Bool) := do
  let _ ← Scan.char '['
  let repeats := (← Scan.option (Scan.char '[')).isSome
  let path ← key
  Scan.literal (if repeats then [']', ']'] else [']'])
  lineEnd
  return (path, repeats)

def tableSection : Scan Section := do
  let (path, repeats) ← header
  idleLines
  return { path, repeats, values := ← assignments }

/-- The values before the first header, and the sections. -/
def document : Scan (List (List String × Toml) × List Section) := do
  let _ ← Scan.option (Scan.char '\uFEFF')
  idleLines
  let values ← assignments
  let parts ← Scan.many tableSection
  return (values, parts)

end Grammar

/-- The table that a document denotes, if it is one. -/
def ofText? (text : String) : Option Table := do
  let (values, parts) ← Text.Scan.whole? Grammar.document text
  ofSections? values parts

end SnippetBridge.Toml
