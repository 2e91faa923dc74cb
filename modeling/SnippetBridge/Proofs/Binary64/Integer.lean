import SnippetBridge.Proofs.Binary64.Rounding

/-!
Integers as doubles. Rounding always ends on the grid of the doubles, so that it gives a finite
number where nothing is too large; every integer of a word is such a number. The integers of
magnitude below `2 ^ 53` are doubles themselves, and a double is one of them exactly if it has an
integer form.
-/

namespace SnippetBridge.Binary64

/-! ### The grid -/

/-- The doubles at a magnitude have 53 bits, so a number of at most 53 bits is on their grid. -/
theorem spacing_dvd_mul_pow {k : Nat} (hk : k ≤ 2 ^ 53) (e : Nat) :
    spacing (k * 2 ^ e) ∣ k * 2 ^ e := by
  rcases Nat.eq_zero_or_pos k with rfl | hpos
  · simp
  rcases hk.lt_or_eq with hlt | rfl
  · have hunits : k * 2 ^ e ≠ 0 := (Nat.mul_pos hpos (Nat.two_pow_pos e)).ne'
    have hlog : (k * 2 ^ e).log2 < 53 + e := by
      rw [Nat.log2_lt hunits, Nat.pow_add]
      exact Nat.mul_lt_mul_of_pos_right hlt (Nat.two_pow_pos e)
    exact (Nat.pow_dvd_pow 2 (by omega)).trans (Nat.dvd_mul_left (2 ^ e) k)
  · rw [← Nat.pow_add, spacing, Nat.log2_two_pow]
    exact Nat.pow_dvd_pow 2 (by omega)

/-- Rounding ends on the grid, also where it goes up to the next power of two. -/
theorem spacing_dvd_nearestUnits (num den : Nat) :
    spacing (nearestUnits num den) ∣ nearestUnits num den := by
  let q := num / den
  have hquotient : num / (den * spacing q) < 2 ^ 53 := by
    rw [← Nat.div_div_eq_div_mul]
    exact Nat.div_lt_of_lt_mul (lt_spacing_mul q)
  have hround : roundHalfEven num (den * spacing q) ≤ 2 ^ 53 :=
    (roundHalfEven_le num (den * spacing q)).trans hquotient
  exact spacing_dvd_mul_pow hround (q.log2 - 52)

theorem nearestUnits_le (num den : Nat) : nearestUnits num den ≤ 2 * (num / den) + 1 := by
  let q := num / den
  have hgap : spacing q ≤ q + 1 := by
    rcases Nat.eq_zero_or_pos q with hzero | hpos
    · rw [hzero]
      decide
    · exact (spacing_le hpos).trans (Nat.le_succ q)
  calc
    nearestUnits num den ≤ (num / (den * spacing q) + 1) * spacing q :=
      Nat.mul_le_mul_right _ (roundHalfEven_le num (den * spacing q))
    _ = q / spacing q * spacing q + spacing q := by
      rw [← Nat.div_div_eq_div_mul, Nat.add_mul, Nat.one_mul]
    _ ≤ q + (q + 1) := Nat.add_le_add (Nat.div_mul_le_self ..) hgap
    _ = 2 * q + 1 := by omega

theorem isFinite_ofRatio (negative : Bool) {num den : Nat} (h : 2 * (num / den) + 1 < ceiling) :
    (ofRatio negative num den).isFinite := by
  have hrep : Representable (nearestUnits num den) :=
    ⟨(nearestUnits_le num den).trans_lt h, spacing_dvd_nearestUnits num den⟩
  rw [ofRatio, dif_pos hrep]
  rfl

/-! ### Integers of a word -/

/-- No integer of 64 bits is too large for a double. -/
theorem isFinite_ofInt {n : Int} (h : n.natAbs ≤ 2 ^ 64) : (ofInt n).isFinite := by
  have hsmall (m : Nat) (hm : m ≤ 2 ^ 64) (negative : Bool) :
      (ofRatio negative (m * one) 1).isFinite := by
    apply isFinite_ofRatio
    have hunits : m * one ≤ 2 ^ 64 * one := Nat.mul_le_mul_right one hm
    have hceiling : 2 * (2 ^ 64 * one) + 1 < ceiling := by decide +kernel
    omega
  cases n with
  | ofNat m => exact hsmall m h false
  | negSucc m => exact hsmall (m + 1) h true

/-! ### Integers that are doubles -/

theorem representable_mul_one {n : Nat} (h : n < 2 ^ 53) : Representable (n * one) := by
  refine ⟨?_, spacing_dvd_mul_pow h.le 1074⟩
  calc
    n * one < 2 ^ 53 * one := Nat.mul_lt_mul_of_pos_right h one_pos
    _ < ceiling := by decide +kernel

theorem safeInteger?_finite (negative : Bool) {n : Nat} (h : n < 2 ^ 53) :
    safeInteger? (.finite negative (n * one) (representable_mul_one h)) =
      some (if negative then -(n : Int) else n) := by
  have hunits : n * one < 9007199254740992 * one := Nat.mul_lt_mul_of_pos_right h one_pos
  simp only [safeInteger?, Nat.mul_mod_left, hunits, and_self, if_true,
    Nat.mul_div_cancel n one_pos]

theorem safeInteger?_ofInt {n : Int} (h : n.natAbs < 2 ^ 53) : (ofInt n).safeInteger? = some n := by
  cases n with
  | ofNat m =>
      have hm : m < 2 ^ 53 := h
      rw [Int.ofNat_eq_natCast, ofInt_natCast,
        ofRatio_one_of_representable false (representable_mul_one hm), safeInteger?_finite false hm]
      rfl
  | negSucc m =>
      have hm : m + 1 < 2 ^ 53 := h
      rw [ofInt_negSucc, ofRatio_one_of_representable true (representable_mul_one hm),
        safeInteger?_finite true hm]
      rfl

theorem safeInteger?_unsignedZero (x : Binary64) :
    x.unsignedZero.safeInteger? = x.safeInteger? := by
  cases x with
  | nan => rfl
  | infinite negative => rfl
  | finite negative units hrep =>
      by_cases hunits : units = 0
      · subst hunits
        cases negative <;> simp [unsignedZero, zero, safeInteger?]
      · simp [unsignedZero, hunits]

theorem natAbs_of_safeInteger? {x : Binary64} {n : Int} (h : x.safeInteger? = some n) :
    n.natAbs < 2 ^ 53 := by
  obtain ⟨negative, units, hrep, rfl⟩ := exists_of_isFinite (isFinite_of_safeInteger? h)
  simp only [safeInteger?, Option.ite_none_right_eq_some, Option.some.injEq] at h
  obtain ⟨⟨-, hunits⟩, rfl⟩ := h
  have hquotient : units / one < 9007199254740992 := by
    apply Nat.div_lt_of_lt_mul
    rwa [Nat.mul_comm]
  generalize units / one = quotient at hquotient
  cases negative <;> simpa using hquotient

/-- The integer form of a double is the integer below `2 ^ 53` that it is, zeros taken as one. -/
theorem safeInteger?_eq_some_iff {x : Binary64} {n : Int} :
    x.safeInteger? = some n ↔ n.natAbs < 2 ^ 53 ∧ x.unsignedZero = ofInt n := by
  constructor
  · intro h
    exact ⟨natAbs_of_safeInteger? h, (ofInt_of_safeInteger? h).symm⟩
  · rintro ⟨hsmall, hx⟩
    rw [← safeInteger?_unsignedZero, hx, safeInteger?_ofInt hsmall]

end SnippetBridge.Binary64
