import SnippetBridge.Toml.Basic
import SnippetBridge.Toml.Text

/-!
Numbers, dates and times of TOML. Integers have 64 bits with a sign, and digits may be grouped by
single underscores; dates follow the calendar, and a minute may have a leap second.
-/

namespace SnippetBridge.Toml.Grammar

open Text (Scan)

/-- Digits of a base in groups that are joined by single underscores, without the underscores. -/
def digits (base : Nat) : Scan (List Char) := do
  let first ← Scan.run1 (Text.isDigitOf base)
  let rest ← Scan.many (do let _ ← Scan.char '_'; Scan.run1 (Text.isDigitOf base))
  return first ++ rest.flatten

/-- Decimal digits without leading zeros. -/
def wholeDigits : Scan (List Char) := do
  match ← digits 10 with
  | '0' :: _ :: _ => failure
  | found => return found

/-- Whether there is a minus sign in front; a plus sign is taken too. -/
def sign : Scan Bool :=
  (do let _ ← Scan.char '-'; return true)
  <|> (do let _ ← Scan.char '+'; return false)
  <|> return false

/-- An integer with the sign that `negative` tells. -/
def signed (negative : Bool) (magnitude : Nat) : Int :=
  if negative then -(magnitude : Int) else magnitude

/-- An integer that fits a signed word of 64 bits. -/
def FitsInt64 (n : Int) : Prop := -9223372036854775808 ≤ n ∧ n ≤ 9223372036854775807

instance : DecidablePred FitsInt64 := fun n =>
  inferInstanceAs (Decidable (-9223372036854775808 ≤ n ∧ n ≤ 9223372036854775807))

def decimalInteger : Scan Int := do
  let negative ← sign
  return signed negative (← Text.numeral? 10 (← wholeDigits))

def basedInteger (letter : Char) (base : Nat) : Scan Int := do
  Scan.literal ['0', letter]
  return signed false (← Text.numeral? base (← digits base))

def integer : Scan Toml := do
  let n ← basedInteger 'x' 16 <|> basedInteger 'o' 8 <|> basedInteger 'b' 2 <|> decimalInteger
  if FitsInt64 n then return .integer n else failure

def exponent : Scan Int := do
  let _ ← Scan.one fun c => c == 'e' || c == 'E'
  let negative ← sign
  return signed negative (← Text.numeral? 10 (← digits 10))

/-- A fraction, an exponent or both. -/
def decimalTail : Scan (List Char × Int) :=
  (do
    let _ ← Scan.char '.'
    let places ← digits 10
    let scale ← Scan.option exponent
    return (places, scale.getD 0))
  <|> (do return ([], ← exponent))

/-- A number with a fraction or an exponent. It may be too small for a double, or too far below
zero, but not too large. -/
def decimalFloat : Scan Toml := do
  let negative ← sign
  let whole ← wholeDigits
  let (places, scale) ← decimalTail
  let significand ← Text.numeral? 10 (whole ++ places)
  let x := Binary64.ofDecimal negative significand (scale - places.length)
  if x = .infinite false then failure else return .float x

def specialFloat : Scan Toml := do
  let negative ← sign
  (do Scan.word "inf"; return .float (.infinite negative))
  <|> (do Scan.word "nan"; return .float .nan)

def isLeapYear (year : Nat) : Bool := year % 4 == 0 && (year % 100 != 0 || year % 400 == 0)

def monthLength (year month : Nat) : Nat :=
  if month = 2 then (if isLeapYear year then 29 else 28)
  else if month = 4 ∨ month = 6 ∨ month = 9 ∨ month = 11 then 30
  else 31

/-- A number of a fixed count of digits, within bounds. -/
def field (count low high : Nat) : Scan Nat := do
  let n ← Text.numeral? 10 (← Scan.times Char.isDigit count)
  if low ≤ n ∧ n ≤ high then return n else failure

def date : Scan Unit := do
  let year ← field 4 0 9999
  let _ ← Scan.char '-'
  let month ← field 2 1 12
  let _ ← Scan.char '-'
  let _ ← field 2 1 (monthLength year month)

def time : Scan Unit := do
  let _ ← field 2 0 23
  let _ ← Scan.char ':'
  let _ ← field 2 0 59
  let _ ← Scan.char ':'
  let _ ← field 2 0 60
  let _ ← Scan.option (do let _ ← Scan.char '.'; Scan.run1 Char.isDigit)

def offset : Scan Unit :=
  discard (Scan.one fun c => c == 'Z' || c == 'z') <|> do
    let _ ← Scan.one fun c => c == '+' || c == '-'
    let _ ← field 2 0 23
    let _ ← Scan.char ':'
    let _ ← field 2 0 59

/-- A date with or without a time and an offset, or a time. -/
def momentShape : Scan Unit :=
  (do
    date
    let _ ← Scan.option do
      let _ ← Scan.one fun c => c == 'T' || c == 't' || c == ' '
      time
      let _ ← Scan.option offset)
  <|> time

def moment : Scan Toml := fun cs => do
  let ((), rest) ← momentShape cs
  return (.moment (String.ofList (cs.take (cs.length - rest.length))), rest)

def number : Scan Toml := moment <|> decimalFloat <|> specialFloat <|> integer

end SnippetBridge.Toml.Grammar
