import SnippetBridge.Text.Digit
import SnippetBridge.Text.Scan

/-!
Lexical parts of TOML: blanks, comments and strings in their four forms. The only control character
in them is the tab, apart from line ends, which are a line feed with or without a carriage return
before it.
-/

namespace SnippetBridge.Toml.Grammar

open Text (Scan)

def isBlank (c : Char) : Bool := c == ' ' || c == '\t'

/-- Characters that may stand in a comment or a string. -/
def isText (c : Char) : Bool := c == '\t' || (0x20 ≤ c.toNat && c != '\x7f')

def blanks : Scan Unit := discard (Scan.run isBlank)

def newline : Scan Unit := Scan.word "\n" <|> Scan.word "\r\n"

def comment : Scan Unit := do
  let _ ← Scan.char '#'
  let _ ← Scan.run isText

/-- Blanks, comments and line ends. -/
def gap : Scan Unit := discard (Scan.many ((discard (Scan.run1 isBlank)) <|> newline <|> comment))

/-- The rest of a line behind a header or a value. -/
def lineEnd : Scan Unit := do
  blanks
  let _ ← Scan.option comment
  newline <|> Scan.atEnd

/-- A code point that is given by a number of hexadecimal digits. -/
def codePoint (digits : Nat) : Scan Char := do
  let n ← Text.numeral? 16 (← Scan.times (Text.isDigitOf 16) digits)
  if n.isValidChar then return Char.ofNat n else failure

/-- The character that an escape stands for. -/
def escape : Scan Char := do
  let _ ← Scan.char '\\'
  match ← Scan.one fun _ => true with
  | 'b' => return '\x08'
  | 't' => return '\t'
  | 'n' => return '\n'
  | 'f' => return '\x0c'
  | 'r' => return '\r'
  | '"' => return '"'
  | '\\' => return '\\'
  | 'u' => codePoint 4
  | 'U' => codePoint 8
  | _ => failure

def basicString : Scan String := do
  let _ ← Scan.char '"'
  let cs ← Scan.many (Scan.one (fun c => isText c && c != '"' && c != '\\') <|> escape)
  let _ ← Scan.char '"'
  return String.ofList cs

def literalString : Scan String := do
  let _ ← Scan.char '\''
  let cs ← Scan.run fun c => isText c && c != '\''
  let _ ← Scan.char '\''
  return String.ofList cs

/-- A backslash at the end of a line takes all white space behind it away. -/
def foldedLine : Scan Unit := do
  let _ ← Scan.char '\\'
  blanks
  newline
  let _ ← Scan.many (discard (Scan.run1 isBlank) <|> newline)

/-- The end of a string of several lines: three quotes, with up to two more that belong to the
string. -/
def closing (quote : Char) : Scan (List Char) := do
  let quotes ← Scan.run (· == quote)
  if 3 ≤ quotes.length ∧ quotes.length ≤ 5 then return quotes.drop 3 else failure

/-- One or two quotes inside a string of several lines. -/
def innerQuotes (quote : Char) : Scan (List Char) := do
  let quotes ← Scan.run1 (· == quote)
  if quotes.length ≤ 2 then return quotes else failure

/-- A string of several lines, of the given pieces. A line end right behind the opening quotes is
no part of it. -/
def multiline (quote : Char) (piece : Scan (List Char)) : Scan String := do
  Scan.literal [quote, quote, quote]
  let _ ← Scan.option newline
  let pieces ← Scan.many (piece <|> (do newline; return ['\n']) <|> innerQuotes quote)
  return String.ofList (pieces.flatten ++ (← closing quote))

def multilineBasic : Scan String :=
  multiline '"'
    (Scan.run1 (fun c => isText c && c != '"' && c != '\\') <|> (do foldedLine; return [])
      <|> (do return [← escape]))

def multilineLiteral : Scan String :=
  multiline '\'' (Scan.run1 fun c => isText c && c != '\'')

def string : Scan String := multilineBasic <|> multilineLiteral <|> basicString <|> literalString

def isBareKey (c : Char) : Bool := c.isAlphanum || c == '-' || c == '_'

/-- The parts of a key that may be dotted. -/
def simpleKey : Scan String :=
  basicString <|> literalString <|> (do return String.ofList (← Scan.run1 isBareKey))

/-- A key has fewer parts than this, and values are nested less deeply. -/
def depthLimit : Nat := 80

def key : Scan (List String) := do
  let part : Scan String := do
    blanks
    let name ← simpleKey
    blanks
    return name
  let first ← part
  let rest ← Scan.many (do let _ ← Scan.char '.'; part)
  if rest.length + 1 < depthLimit then return first :: rest else failure

end SnippetBridge.Toml.Grammar
