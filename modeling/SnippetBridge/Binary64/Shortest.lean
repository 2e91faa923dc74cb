import SnippetBridge.Binary64.Rounding

/-!
The shortest decimal that reads back as a given double. Decimals with the same last place form a
grid; the coarsest grid that has a point rounding to the double wins, and of two such points the
one nearer to the double.
-/

namespace SnippetBridge

/-- The number `significand * 10 ^ exponent`. -/
structure Decimal where
  significand : Nat
  exponent : Int
  deriving DecidableEq

namespace Binary64

/-- Which of two decimals is written when the double lies exactly half-way between them. -/
inductive Tie where
  | even
  | up
  deriving DecidableEq

/-- The point of the grid of multiples of `10 ^ exponent` to write for a magnitude, if one of the
magnitude's two neighbours on the grid reads back as it. -/
def onGrid? (tie : Tie) (units : Nat) (exponent : Int) : Option Nat :=
  let (num, den) := match exponent with
    | .ofNat e => (units, one * Nat.pow 10 e)
    | .negSucc e => (units * Nat.pow 10 (e + 1), one)
  let low := num / den
  let r := num % den
  match decimalUnits low exponent == units, decimalUnits (low + 1) exponent == units with
  | false, false => none
  | true, false => some low
  | false, true => some (low + 1)
  | true, true =>
    if 2 * r < den then some low
    else if den < 2 * r then some (low + 1)
    else match tie with
      | .up => some (low + 1)
      | .even => some (if low % 2 = 0 then low else low + 1)

/-- Tries grids from `10 ^ exponent` downwards. A double is a multiple of `10 ^ -1074`, which
stands in when no grid is left to try. -/
def search (tie : Tie) (units : Nat) : Nat → Int → Decimal
  | 0, _ => ⟨units * Nat.pow 5 1074, -1074⟩
  | n + 1, exponent =>
    match onGrid? tie units exponent with
    | some significand => ⟨significand, exponent⟩
    | none => search tie units n (exponent - 1)

/-- The exponent of the least power of ten above a positive magnitude. -/
def decimalMagnitude (units : Nat) : Int :=
  ((Nat.toDigits 10 (units * Nat.pow 10 324 / one)).length : Int) - 324

/-- The shortest decimal for a positive magnitude; seventeen digits always suffice. -/
def shortest (tie : Tie) (units : Nat) : Decimal :=
  search tie units 18 (decimalMagnitude units)

end Binary64

end SnippetBridge
