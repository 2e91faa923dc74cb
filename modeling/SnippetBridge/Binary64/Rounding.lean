import SnippetBridge.Binary64.Basic

/-!
Rounding to the nearest double. A ratio, a decimal and an integer are all rounded once, half-way
cases to the even neighbour, and a magnitude past the largest finite double becomes infinite.
-/

namespace SnippetBridge.Binary64

/-- The integer nearest to `num / den`, a half going to the even neighbour. -/
def roundHalfEven (num den : Nat) : Nat :=
  let q := num / den
  let r := num % den
  if 2 * r < den then q
  else if den < 2 * r then q + 1
  else if q % 2 = 0 then q else q + 1

/-- The magnitude nearest to `num / den` units on the grid that the doubles form there. -/
def nearestUnits (num den : Nat) : Nat :=
  let gap := spacing (num / den)
  roundHalfEven num (den * gap) * gap

/-- The double nearest to `num / den` units. -/
def ofRatio (negative : Bool) (num den : Nat) : Binary64 :=
  let units := nearestUnits num den
  if h : Representable units then .finite negative units h else .infinite negative

/-- The magnitude nearest to `significand * 10 ^ exponent`, in units. -/
def decimalUnits (significand : Nat) : Int → Nat
  | .ofNat e => nearestUnits (significand * Nat.pow 10 e * one) 1
  | .negSucc e => nearestUnits (significand * one) (Nat.pow 10 (e + 1))

/-- The double nearest to `significand * 10 ^ exponent`. Powers of ten beyond the range of the
doubles are recognised by their exponent alone: from `10 ^ 400` on everything is infinite, and
below `10 ^ -400` everything is zero. -/
def ofDecimal (negative : Bool) (significand : Nat) (exponent : Int) : Binary64 :=
  if significand = 0 then zero negative
  else if 400 < exponent then .infinite negative
  else if exponent + (significand.log2 / 3 + 1 : Nat) < -400 then zero negative
  else
    let units := decimalUnits significand exponent
    if h : Representable units then .finite negative units h else .infinite negative

def ofNat (n : Nat) : Binary64 := ofRatio false (n * one) 1

def ofInt : Int → Binary64
  | .ofNat n => ofRatio false (n * one) 1
  | .negSucc n => ofRatio true ((n + 1) * one) 1

end SnippetBridge.Binary64
