import SnippetBridge.Binary64.Shortest

/-!
Doubles as text. The plain form is positional: the shortest digits that read back, never an
exponent, no fraction for integral values. The reader takes what a decimal literal can be, with an
optional sign, exponent, `inf` and `nan`.
-/

namespace SnippetBridge

namespace Decimal

def digits (d : Decimal) : List Char := Nat.toDigits 10 d.significand

/-- Positional form. A negative exponent puts the point before that many last digits, with zeros in
front where digits are missing. -/
def plain (d : Decimal) : List Char :=
  match d.exponent with
  | .ofNat e => d.digits ++ List.replicate e '0'
  | .negSucc e =>
    let ds := d.digits
    let padded := List.replicate (e + 2 - ds.length) '0' ++ ds
    padded.take (padded.length - (e + 1)) ++ '.' :: padded.drop (padded.length - (e + 1))

end Decimal

namespace Binary64

/-- The plain form of a number; half-way cases between two shortest decimals go up. -/
def plain : Binary64 → String
  | .nan => "NaN"
  | .infinite negative => if negative then "-inf" else "inf"
  | .finite negative units _ =>
    let magnitude := if units = 0 then ['0'] else (shortest .up units).plain
    String.ofList (if negative then '-' :: magnitude else magnitude)

/-- The digits that decimal text is made of: their value, how many there are, and what follows. -/
def scanDigits : List Char → Nat → Nat → Nat × Nat × List Char
  | [], value, count => (value, count, [])
  | c :: rest, value, count =>
    if c.isDigit then scanDigits rest (10 * value + (c.toNat - 48)) (count + 1)
    else (value, count, c :: rest)

/-- The exponent part of a decimal: empty, or `e`, an optional sign and at least one digit. -/
def scanExponent? : List Char → Option Int
  | [] => some 0
  | c :: rest =>
    if c = 'e' ∨ c = 'E' then
      let (negative, body) := match rest with
        | '-' :: more => (true, more)
        | '+' :: more => (false, more)
        | _ => (false, rest)
      match scanDigits body 0 0 with
      | (value, count, []) =>
        if count = 0 then none else some (if negative then -(value : Int) else (value : Int))
      | _ => none
    else none

/-- An unsigned decimal: digits with an optional point somewhere among them, at least one digit,
and an optional exponent. -/
def ofUnsigned? (negative : Bool) (text : List Char) : Option Binary64 :=
  let (whole, wholeCount, rest) := scanDigits text 0 0
  let (value, count, places, rest) := match rest with
    | '.' :: more =>
      let (value, count, rest) := scanDigits more whole wholeCount
      (value, count, count - wholeCount, rest)
    | _ => (whole, wholeCount, 0, rest)
  if count = 0 then none
  else (scanExponent? rest).map fun e => ofDecimal negative value (e - places)

/-- The number that a text denotes: a decimal rounded to the nearest double, or `inf`, `infinity`
or `nan` in either case, all with an optional sign. -/
def ofText? (text : String) : Option Binary64 :=
  let (negative, body) := match text.toList with
    | '-' :: rest => (true, rest)
    | '+' :: rest => (false, rest)
    | cs => (false, cs)
  match String.ofList (body.map Char.toLower) with
  | "inf" | "infinity" => some (.infinite negative)
  | "nan" => some .nan
  | _ => ofUnsigned? negative body

end Binary64

end SnippetBridge
