/-!
Double-precision numbers, represented exactly. Every finite double is a whole number of *units* of
2^-1074, the least positive double, so a finite number is a sign and a count of units. All
questions about them (rounding, equality, being integral) are questions about natural numbers.
-/

namespace SnippetBridge

namespace Binary64

/-- The number one, counted in units. -/
def one : Nat := Nat.pow 2 1074

/-- The least magnitude, in units, that is too large for a finite double. -/
def ceiling : Nat := Nat.pow 2 2098

/-- Distance between neighbouring doubles at a magnitude: one unit below `2 ^ 53` units, and twice
as much from each further power of two on. -/
def spacing (units : Nat) : Nat := Nat.pow 2 (units.log2 - 52)

def Representable (units : Nat) : Prop := units < ceiling ∧ spacing units ∣ units

instance : DecidablePred Representable := fun units =>
  inferInstanceAs (Decidable (units < ceiling ∧ spacing units ∣ units))

theorem ceiling_pos : 0 < ceiling := by decide +kernel

theorem representable_zero : Representable 0 := ⟨ceiling_pos, Nat.dvd_zero _⟩

end Binary64

inductive Binary64 where
  | nan
  | infinite (negative : Bool)
  | finite (negative : Bool) (units : Nat) (representable : Binary64.Representable units)
  deriving DecidableEq

namespace Binary64

/-- Zero with a sign. -/
def zero (negative : Bool) : Binary64 := .finite negative 0 representable_zero

def isFinite : Binary64 → Bool
  | .finite .. => true
  | _ => false

/-- Equality of numbers: the two zeros are equal and `nan` equals nothing. -/
def same : Binary64 → Binary64 → Bool
  | .infinite s, .infinite t => s == t
  | .finite s m _, .finite t n _ => m == n && (s == t || m == 0)
  | _, _ => false

/-- The integer that an integral number of magnitude below `2 ^ 53` stands for. -/
def safeInteger? : Binary64 → Option Int
  | .finite negative units _ =>
    if units % one = 0 ∧ units < 9007199254740992 * one then
      some (if negative then -(units / one : Nat) else (units / one : Nat))
    else none
  | _ => none

end Binary64

end SnippetBridge
