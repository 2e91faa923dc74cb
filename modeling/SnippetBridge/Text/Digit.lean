/-!
Digits of bases up to sixteen, and the numbers that rows of them denote.
-/

namespace SnippetBridge.Text

/-- The value of a digit; the letters count from ten on, in either case. -/
def digitValue? (c : Char) : Option Nat :=
  if '0' ≤ c ∧ c ≤ '9' then some (c.toNat - 48)
  else if 'a' ≤ c ∧ c ≤ 'f' then some (c.toNat - 87)
  else if 'A' ≤ c ∧ c ≤ 'F' then some (c.toNat - 55)
  else none

/-- Whether a character is a digit of a base. -/
def isDigitOf (base : Nat) (c : Char) : Bool := (digitValue? c).any (· < base)

/-- The number that digits denote behind others that denote `acc`. -/
def numeralFrom? (base : Nat) : Nat → List Char → Option Nat
  | acc, [] => some acc
  | acc, c :: rest => do
    let digit ← digitValue? c
    if digit < base then numeralFrom? base (base * acc + digit) rest else none

/-- The number that a row of digits of a base denotes. There must be a digit. -/
def numeral? (base : Nat) : List Char → Option Nat
  | [] => none
  | digits => numeralFrom? base 0 digits

end SnippetBridge.Text
