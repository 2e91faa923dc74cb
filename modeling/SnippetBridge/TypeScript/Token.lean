import SnippetBridge.Text.Digit
import SnippetBridge.Text.Scan
import SnippetBridge.TypeScript.Character

/-!
Tokens of TypeScript. Each scan gives the text of the token it takes.
-/

namespace SnippetBridge.TypeScript.Token

open Text (Scan)

def exactly (text : List Char) : Scan (List Char) := do
  Scan.literal text
  return text

/-- An operator that is not the beginning of a longer one: none of `longer` follows it. -/
def operator (text longer : List Char) : Scan (List Char) := do
  Scan.literal text
  if ← Scan.ahead longer.contains then failure else return text

/-- The question mark of a condition. No other one follows it, and a point only if that is the
beginning of a number. -/
def conditionMark : Scan (List Char) := fun cs =>
  match cs with
  | '?' :: '?' :: _ => none
  | '?' :: '.' :: rest =>
    if rest.head?.any (Text.isDigitOf 10) then some (['?'], '.' :: rest) else none
  | '?' :: rest => some (['?'], rest)
  | _ => none

/-- A Unicode escape behind its backslash: `u` and four digits, or `u` and digits in braces. -/
def unicodeEscape : Scan (List Char) :=
  (do
    let _ ← Scan.char 'u'
    return 'u' :: (← Scan.times (Text.isDigitOf 16) 4))
  <|> (do
    Scan.literal ['u', '{']
    let digits ← Scan.run1 (Text.isDigitOf 16)
    let _ ← Scan.char '}'
    return ['u', '{'] ++ digits ++ ['}'])

def escapedNamePart : Scan (List Char) := do
  let _ ← Scan.char '\\'
  return '\\' :: (← unicodeEscape)

/-- An identifier or keyword. -/
def name : Scan (List Char) := do
  let first ← (do return [← Scan.one isNameStart]) <|> escapedNamePart
  let rest ← Scan.many (Scan.run1 isNamePart <|> escapedNamePart)
  return first ++ rest.flatten

/-- A name that is none of the given ones. -/
def nameExcept (reserved : List String) : Scan (List Char) := do
  let text ← name
  if reserved.contains (String.ofList text) then failure else return text

def keyword (word : String) : Scan (List Char) := do
  let text ← name
  if text = word.toList then return text else failure

def privateName : Scan (List Char) := do
  let _ ← Scan.char '#'
  return '#' :: (← name)

/-- Digits of a base in groups that are joined by single underscores. -/
def digits (base : Nat) : Scan (List Char) := do
  let first ← Scan.run1 (Text.isDigitOf base)
  let rest ← Scan.many (do
    let _ ← Scan.char '_'
    return '_' :: (← Scan.run1 (Text.isDigitOf base)))
  return first ++ rest.flatten

def radixDigits (lower upper : Char) (base : Nat) : Scan (List Char) := do
  let _ ← Scan.char '0'
  let letter ← Scan.one fun c => c == lower || c == upper
  return '0' :: letter :: (← digits base)

def exponent : Scan (List Char) := do
  let letter ← Scan.one fun c => c == 'e' || c == 'E'
  let sign ← Scan.option (Scan.one fun c => c == '+' || c == '-')
  return letter :: sign.toList ++ (← digits 10)

/-- What may follow the point of a number. -/
def fraction : Scan (List Char) := do
  let places ← Scan.option (digits 10)
  let scale ← Scan.option exponent
  return places.getD [] ++ scale.getD []

/-- Whether a fraction or an exponent may follow decimal digits. They may follow a zero and what
begins with another digit, be it behind one zero. -/
def isScalable : List Char → Bool
  | ['0'] => true
  | '0' :: c :: _ => Text.isDigitOf 10 c && c != '0'
  | _ => true

/-- A number that begins with decimal digits. -/
def decimal : Scan (List Char) := do
  let whole ← digits 10
  let suffix : Scan (List Char) :=
    exactly ['n']
    <|> (do
      if isScalable whole then
        let _ ← Scan.char '.'
        return '.' :: (← fraction)
      else failure)
    <|> (if isScalable whole then exponent else failure)
    <|> return []
  return whole ++ (← suffix)

def pointed : Scan (List Char) := do
  let _ ← Scan.char '.'
  let places ← digits 10
  let scale ← Scan.option exponent
  return '.' :: places ++ scale.getD []

/-- A numeric literal. An `n` at the end of an integer makes it a big integer. -/
def number : Scan (List Char) :=
  (do
    let text ← radixDigits 'x' 'X' 16 <|> radixDigits 'o' 'O' 8
      <|> radixDigits 'b' 'B' 2
    return text ++ (← exactly ['n'] <|> return []))
  <|> decimal <|> pointed

/-- A piece of a string between escapes. -/
def fragment (quote : Char) : Scan (List Char) :=
  Scan.run1 fun c => c != quote && c != '\\' && c != '\n' && c != '\r'

/-- Up to three octal digits. -/
def octalDigits : Scan (List Char) :=
  let row := Scan.times (Text.isDigitOf 8)
  row 3 <|> row 2 <|> row 1

/-- An escape sequence of a string. A line break of two characters is one escape. -/
def escape : Scan (List Char) := do
  let _ ← Scan.char '\\'
  let body ←
    (do
      let _ ← Scan.char 'x'
      return 'x' :: (← Scan.times (Text.isDigitOf 16) 2))
    <|> unicodeEscape
    <|> octalDigits
    <|> (do
      let first ← Scan.one fun c => c == '\r' || c == '?'
      return [first, ← Scan.one fun c => c == '\n' || c == '\u2028' || c == '\u2029'])
    <|> (do return [← Scan.one fun c => c != 'x' && c != 'u' && !Text.isDigitOf 8 c])
  return '\\' :: body

/-- A piece of a template between escapes and substitutions. -/
def templateText : Scan (List Char) := do
  let pieces ← Scan.many (Scan.run1 (fun c => c != '\x60' && c != '\\' && c != '$')
    <|> (do
      let _ ← Scan.char '$'
      if ← Scan.ahead (· == '{') then failure else return ['$']))
  if pieces.isEmpty then failure else return pieces.flatten

/-- A regular expression with its flags. A slash in brackets does not end it. -/
def regex : Scan (List Char) := do
  let _ ← Scan.char '/'
  let escaped : Scan (List Char) := do
    let _ ← Scan.char '\\'
    return ['\\', ← Scan.one (· != '\n')]
  let bracketed : Scan (List Char) := do
    let _ ← Scan.char '['
    let pieces ← Scan.many (Scan.run1 (fun c => c != ']' && c != '\n' && c != '\\') <|> escaped)
    let _ ← Scan.char ']'
    return '[' :: pieces.flatten ++ [']']
  let pieces ← Scan.many (bracketed <|> escaped
    <|> Scan.run1 fun c => c != '/' && c != '\\' && c != '[' && c != '\n')
  if pieces.isEmpty then failure
  else
    let _ ← Scan.char '/'
    let flags ← Scan.run fun c => 'a' ≤ c && c ≤ 'z'
    return '/' :: pieces.flatten ++ '/' :: flags

/-- The line that names an interpreter. -/
def hashBang : Scan (List Char) := do
  Scan.literal ['#', '!']
  return '#' :: '!' :: (← Scan.run (· != '\n'))

end SnippetBridge.TypeScript.Token
