import SnippetBridge.Binary64.Shortest
import SnippetBridge.Proofs.Binary64.Rounding

/-!
The shortest decimal of a double is read as that double. Every grid that the search stops at has
this property by its own test, and the decimal that stands in when no grid is left is exact.
-/

namespace SnippetBridge.Binary64

theorem decimalUnits_of_onGrid? {tie : Tie} {units : Nat} {exponent : Int} {significand : Nat}
    (h : onGrid? tie units exponent = some significand) :
    decimalUnits significand exponent = units := by
  unfold onGrid? at h
  split at h
  rename_i num den _
  dsimp only at h
  generalize num / den = low at h
  cases hlow : decimalUnits low exponent == units with
  | false =>
      cases hhigh : decimalUnits (low + 1) exponent == units with
      | false => simp only [hlow, hhigh, reduceCtorEq] at h
      | true =>
          simp only [hlow, hhigh, Option.some.injEq] at h
          exact h ▸ eq_of_beq hhigh
  | true =>
      cases hhigh : decimalUnits (low + 1) exponent == units with
      | false =>
          simp only [hlow, hhigh, Option.some.injEq] at h
          exact h ▸ eq_of_beq hlow
      | true =>
          simp only [hlow, hhigh] at h
          have hneighbour : significand = low ∨ significand = low + 1 := by
            cases tie <;> split at h <;> try split at h
            all_goals
              simp only [Option.some.injEq] at h
              first | omega | (split at h <;> omega)
          rcases hneighbour with rfl | rfl
          · exact eq_of_beq hlow
          · exact eq_of_beq hhigh

/-- A magnitude of so many units is that many times `5 ^ 1074` in steps of `10 ^ -1074`. -/
theorem exact_value (units : Nat) :
    ((units * Nat.pow 5 1074 : Nat) : ℚ) * 10 ^ (-1074 : Int) = (units : ℚ) / one := by
  -- The powers stay symbolic, so that nothing computes them.
  obtain ⟨n, hn⟩ : ∃ n, n = 1074 := ⟨_, rfl⟩
  have hone : one = 2 ^ n := congrArg (Nat.pow 2) hn.symm
  have hexponent : (-1074 : Int) = -(n : Int) := by omega
  have hten : (10 : ℚ) = 5 * 2 := by norm_num
  rw [hexponent, ← hn, hone, zpow_neg, zpow_natCast, hten, mul_pow]
  push_cast [Nat.pow_eq]
  field_simp

theorem decimalUnits_exact {units : Nat} (h : Representable units) :
    decimalUnits (units * Nat.pow 5 1074) (-1074) = units :=
  (decimalUnits_of_value (exact_value units)).trans (nearestUnits_one_of_dvd h.2)

theorem decimalUnits_search {units : Nat} (h : Representable units) (tie : Tie) (steps : Nat)
    (exponent : Int) :
    decimalUnits (search tie units steps exponent).significand
      (search tie units steps exponent).exponent = units := by
  induction steps generalizing exponent with
  | zero => exact decimalUnits_exact h
  | succ steps ih =>
      rw [search]
      split
      · rename_i significand hgrid
        exact decimalUnits_of_onGrid? hgrid
      · exact ih (exponent - 1)

/-- The shortest decimal reads back. -/
theorem decimalUnits_shortest {units : Nat} (h : Representable units) (tie : Tie) :
    decimalUnits (shortest tie units).significand (shortest tie units).exponent = units :=
  decimalUnits_search h tie 18 (decimalMagnitude units)

theorem decimalUnits_zero (exponent : Int) : decimalUnits 0 exponent = 0 := by
  rw [decimalUnits_eq, Nat.zero_mul, Nat.zero_mul]
  simp [nearestUnits, roundHalfEven]

theorem significand_shortest_ne_zero {units : Nat} (h : Representable units) (hpos : units ≠ 0)
    (tie : Tie) : (shortest tie units).significand ≠ 0 := by
  intro hzero
  have hread := decimalUnits_shortest h tie
  rw [hzero, decimalUnits_zero] at hread
  exact hpos hread.symm

end SnippetBridge.Binary64
