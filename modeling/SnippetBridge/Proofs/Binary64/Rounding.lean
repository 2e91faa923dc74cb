import Mathlib.Algebra.Field.Rat
import Mathlib.Algebra.Order.Field.Basic
import Mathlib.Data.Nat.Cast.Order.Field
import Mathlib.Tactic.FieldSimp
import Mathlib.Tactic.Ring
import SnippetBridge.Binary64.Rounding

/-!
Laws of rounding. What a ratio is rounded to depends on its value alone, and a magnitude that some
double has is rounded to itself. So two decimals of the same value are read as the same double, and
a decimal of the very value of a double is read as that double.
-/

namespace SnippetBridge.Binary64

theorem one_pos : 0 < one := by decide +kernel

theorem spacing_pos (units : Nat) : 0 < spacing units := Nat.pow_pos (by decide)

theorem spacing_le {units : Nat} (hpos : 0 < units) : spacing units ≤ units :=
  calc
    spacing units ≤ 2 ^ units.log2 := Nat.pow_le_pow_right (by decide) (Nat.sub_le ..)
    _ ≤ units := Nat.log2_self_le hpos.ne'

/-- A magnitude has at most 53 bits above the spacing of the doubles there. -/
theorem lt_spacing_mul (units : Nat) : units < spacing units * 2 ^ 53 := by
  calc
    units < 2 ^ (units.log2 + 1) := Nat.lt_log2_self
    _ ≤ 2 ^ (units.log2 - 52 + 53) := Nat.pow_le_pow_right (by decide) (by omega)
    _ = spacing units * 2 ^ 53 := Nat.pow_add ..

/-! ### Rounding ratios -/

theorem le_roundHalfEven (num den : Nat) : num / den ≤ roundHalfEven num den := by
  simp only [roundHalfEven]
  split_ifs <;> omega

theorem roundHalfEven_le (num den : Nat) : roundHalfEven num den ≤ num / den + 1 := by
  simp only [roundHalfEven]
  split_ifs <;> omega

theorem roundHalfEven_mul_mul {k : Nat} (hk : 0 < k) (num den : Nat) :
    roundHalfEven (k * num) (k * den) = roundHalfEven num den := by
  have hlow : 2 * (k * (num % den)) < k * den ↔ 2 * (num % den) < den := by
    rw [Nat.mul_left_comm, Nat.mul_lt_mul_left hk]
  have hhigh : k * den < 2 * (k * (num % den)) ↔ den < 2 * (num % den) := by
    rw [Nat.mul_left_comm, Nat.mul_lt_mul_left hk]
  simp only [roundHalfEven, Nat.mul_div_mul_left num den hk, Nat.mul_mod_mul_left, hlow, hhigh]

theorem roundHalfEven_of_mul {den : Nat} (hden : 0 < den) (n : Nat) :
    roundHalfEven (n * den) den = n := by
  simp [roundHalfEven, Nat.mul_div_cancel n hden, hden]

theorem nearestUnits_mul_mul {k : Nat} (hk : 0 < k) (num den : Nat) :
    nearestUnits (k * num) (k * den) = nearestUnits num den := by
  simp only [nearestUnits, Nat.mul_div_mul_left num den hk, Nat.mul_assoc k den,
    roundHalfEven_mul_mul hk]

/-- Rounding a ratio depends on its value only. -/
theorem nearestUnits_congr {num den num' den' : Nat} (hden : 0 < den) (hden' : 0 < den')
    (hvalue : num * den' = num' * den) : nearestUnits num den = nearestUnits num' den' := by
  -- Over the common denominator the two ratios have the same numerator.
  calc
    nearestUnits num den = nearestUnits (den' * num) (den' * den) :=
      (nearestUnits_mul_mul hden' num den).symm
    _ = nearestUnits (den * num') (den * den') := by
      rw [Nat.mul_comm den' num, hvalue, Nat.mul_comm num' den, Nat.mul_comm den' den]
    _ = nearestUnits num' den' := nearestUnits_mul_mul hden num' den'

/-- A magnitude on the grid of the doubles stays where it is. -/
theorem nearestUnits_one_of_dvd {units : Nat} (hgrid : spacing units ∣ units) :
    nearestUnits units 1 = units := by
  obtain ⟨k, hk⟩ := hgrid
  have hround : roundHalfEven units (spacing units) = k := by
    have hself := roundHalfEven_of_mul (spacing_pos units) k
    rwa [Nat.mul_comm, ← hk] at hself
  simp only [nearestUnits, Nat.div_one, Nat.one_mul, hround]
  rw [Nat.mul_comm]
  exact hk.symm

theorem ofRatio_one_of_representable {units : Nat} (negative : Bool) (h : Representable units) :
    ofRatio negative units 1 = .finite negative units h := by
  simp only [ofRatio, nearestUnits_one_of_dvd h.2, h, dif_pos]

/-! ### Rounding decimals -/

theorem decimalUnits_eq (significand : Nat) (exponent : Int) :
    decimalUnits significand exponent =
      nearestUnits (significand * 10 ^ exponent.toNat * one) (10 ^ (-exponent).toNat) := by
  cases exponent with
  | ofNat e =>
      have hneg : (-(e : Int)).toNat = 0 := by omega
      simp only [decimalUnits, Int.ofNat_eq_natCast, Int.toNat_natCast, hneg, Nat.pow_zero]
      rfl
  | negSucc e =>
      have hpos : (-(Int.negSucc e)).toNat = e + 1 := by omega
      have hzero : (Int.negSucc e).toNat = 0 := by omega
      simp only [decimalUnits, hpos, hzero, Nat.pow_zero, Nat.mul_one]
      rfl

/-- The value of a decimal as a quotient of natural numbers. -/
theorem decimal_value (significand : Nat) (exponent : Int) :
    (significand : ℚ) * 10 ^ exponent =
      ((significand * 10 ^ exponent.toNat : Nat) : ℚ) / ((10 ^ (-exponent).toNat : Nat) : ℚ) := by
  rcases Int.le_total 0 exponent with hsign | hsign
  · obtain ⟨e, rfl⟩ := Int.eq_ofNat_of_zero_le hsign
    simp
  · obtain ⟨e, he⟩ := Int.eq_ofNat_of_zero_le (Int.neg_nonneg_of_nonpos hsign)
    obtain rfl : exponent = -(e : Int) := by omega
    simp [div_eq_mul_inv]

/-- Rounding a decimal depends on its value only. -/
theorem decimalUnits_congr {s s' : Nat} {e e' : Int}
    (hvalue : (s : ℚ) * 10 ^ e = s' * 10 ^ e') : decimalUnits s e = decimalUnits s' e' := by
  have hpow (n : Nat) : 0 < 10 ^ n := Nat.pow_pos (by decide)
  have hpow' (n : Nat) : ((10 ^ n : Nat) : ℚ) ≠ 0 := by exact_mod_cast (hpow n).ne'
  rw [decimal_value, decimal_value, div_eq_div_iff (hpow' _) (hpow' _)] at hvalue
  rw [decimalUnits_eq, decimalUnits_eq]
  apply nearestUnits_congr (hpow _) (hpow _)
  have hnat : s * 10 ^ e.toNat * 10 ^ (-e').toNat = s' * 10 ^ e'.toNat * 10 ^ (-e).toNat := by
    exact_mod_cast hvalue
  calc
    s * 10 ^ e.toNat * one * 10 ^ (-e').toNat
        = s * 10 ^ e.toNat * 10 ^ (-e').toNat * one := Nat.mul_right_comm ..
    _ = s' * 10 ^ e'.toNat * 10 ^ (-e).toNat * one := by rw [hnat]
    _ = s' * 10 ^ e'.toNat * one * 10 ^ (-e).toNat := Nat.mul_right_comm ..

/-- A decimal of the value of a magnitude is rounded as the magnitude is. -/
theorem decimalUnits_of_value {units s : Nat} {e : Int}
    (hvalue : (s : ℚ) * 10 ^ e = (units : ℚ) / one) : decimalUnits s e = nearestUnits units 1 := by
  have hpow : 0 < 10 ^ (-e).toNat := Nat.pow_pos (by decide)
  have hpow' : ((10 ^ (-e).toNat : Nat) : ℚ) ≠ 0 := by exact_mod_cast hpow.ne'
  have hone : (one : ℚ) ≠ 0 := by exact_mod_cast one_pos.ne'
  rw [decimal_value, div_eq_div_iff hpow' hone] at hvalue
  rw [decimalUnits_eq]
  apply nearestUnits_congr hpow Nat.one_pos
  rw [Nat.mul_one]
  exact_mod_cast hvalue

/-! ### Decimals out of range

`ofDecimal` decides by the exponent alone where a decimal is far too large or far too small for a
double. These decisions agree with rounding. -/

/-- Rounding takes away less than half of what there is. -/
theorem div_lt_two_mul_nearestUnits {num den : Nat} (hpos : 0 < num / den) :
    num / den < 2 * nearestUnits num den := by
  let q := num / den
  let gap := spacing q
  have hfloor : q / gap ≤ roundHalfEven num (den * gap) := by
    rw [show q / gap = num / (den * gap) from Nat.div_div_eq_div_mul ..]
    exact le_roundHalfEven num (den * gap)
  -- The gap between doubles is at most `q`, so at least one gap is left after rounding.
  have hone : 1 ≤ q / gap := (Nat.one_le_div_iff (spacing_pos q)).mpr (spacing_le hpos)
  have hq : q < (q / gap + 1) * gap := by
    rw [Nat.mul_comm]
    exact Nat.lt_mul_div_succ q (spacing_pos q)
  calc
    q < (q / gap + 1) * gap := hq
    _ ≤ (2 * roundHalfEven num (den * gap)) * gap := Nat.mul_le_mul_right gap (by omega)
    _ = 2 * nearestUnits num den := by rw [Nat.mul_assoc]; rfl

theorem not_representable_of_large {significand : Nat} {exponent : Int} (hpos : significand ≠ 0)
    (hlarge : 400 < exponent) : ¬Representable (decimalUnits significand exponent) := by
  have hzero : (-exponent).toNat = 0 := by omega
  rw [decimalUnits_eq, hzero, Nat.pow_zero]
  let num := significand * 10 ^ exponent.toNat * one
  have hnum : 2 * ceiling ≤ num := by
    calc
      2 * ceiling ≤ 10 ^ 401 * one := by decide +kernel
      _ ≤ 10 ^ exponent.toNat * one :=
        Nat.mul_le_mul_right one (Nat.pow_le_pow_right (by decide) (by omega))
      _ ≤ num := Nat.mul_le_mul_right one (Nat.le_mul_of_pos_left _ (Nat.pos_of_ne_zero hpos))
  have hnumPos : 0 < num / 1 := by
    rw [Nat.div_one]
    exact Nat.lt_of_lt_of_le (Nat.mul_pos (by decide) ceiling_pos) hnum
  have hround := div_lt_two_mul_nearestUnits hnumPos
  rw [Nat.div_one] at hround
  intro hrep
  have hsmall : nearestUnits num 1 < ceiling := hrep.1
  omega

theorem decimalUnits_eq_zero_of_small {significand : Nat} {exponent : Int}
    (hsmall : exponent + (significand.log2 / 3 + 1 : Nat) < -400) :
    decimalUnits significand exponent = 0 := by
  have hzero : exponent.toNat = 0 := by omega
  -- Three bits make no more than one decimal digit.
  have hsignificand : significand < 10 ^ (significand.log2 / 3 + 1) := by
    calc
      significand < 2 ^ (significand.log2 + 1) := Nat.lt_log2_self
      _ ≤ 2 ^ (3 * (significand.log2 / 3 + 1)) := Nat.pow_le_pow_right (by decide) (by omega)
      _ = (2 ^ 3) ^ (significand.log2 / 3 + 1) := Nat.pow_mul ..
      _ ≤ 10 ^ (significand.log2 / 3 + 1) := Nat.pow_le_pow_left (by decide) _
  have hexponent : 401 + (significand.log2 / 3 + 1) ≤ (-exponent).toNat := by omega
  have hlt : 2 * (significand * one) < 10 ^ (-exponent).toNat := by
    calc
      2 * (significand * one) = 2 * one * significand := by ring
      _ < 2 * one * 10 ^ (significand.log2 / 3 + 1) :=
        Nat.mul_lt_mul_of_pos_left hsignificand (Nat.mul_pos (by decide) one_pos)
      _ ≤ 10 ^ 401 * 10 ^ (significand.log2 / 3 + 1) :=
        Nat.mul_le_mul_right _ (by decide +kernel : 2 * one ≤ 10 ^ 401)
      _ = 10 ^ (401 + (significand.log2 / 3 + 1)) :=
        (pow_add 10 401 (significand.log2 / 3 + 1)).symm
      _ ≤ 10 ^ (-exponent).toNat := Nat.pow_le_pow_right (by decide) hexponent
  have hdiv : significand * one / 10 ^ (-exponent).toNat = 0 := Nat.div_eq_of_lt (by omega)
  have hmod : significand * one % 10 ^ (-exponent).toNat = significand * one :=
    Nat.mod_eq_of_lt (by omega)
  have hgap : spacing 0 = 1 := rfl
  rw [decimalUnits_eq, hzero, Nat.pow_zero, Nat.mul_one]
  simp only [nearestUnits, hdiv, hgap, Nat.mul_one, roundHalfEven, hmod, if_pos hlt]

/-- Reading a decimal is rounding it; what the exponent alone decides is decided in the same way. -/
theorem ofDecimal_eq (negative : Bool) (significand : Nat) (exponent : Int) :
    ofDecimal negative significand exponent =
      if h : Representable (decimalUnits significand exponent) then
        .finite negative (decimalUnits significand exponent) h
      else .infinite negative := by
  have hzero (hunits : decimalUnits significand exponent = 0) :
      zero negative =
        if h : Representable (decimalUnits significand exponent) then
          .finite negative (decimalUnits significand exponent) h
        else .infinite negative := by
    simp only [hunits, representable_zero, dif_pos, zero]
  simp only [ofDecimal]
  split
  · rename_i hs
    apply hzero
    rw [decimalUnits_eq, hs, Nat.zero_mul, Nat.zero_mul]
    simp [nearestUnits, roundHalfEven]
  · rename_i hs
    split
    · rename_i hlarge
      rw [dif_neg (not_representable_of_large hs hlarge)]
    · split
      · rename_i hsmall
        exact hzero (decimalUnits_eq_zero_of_small hsmall)
      · rfl

/-- A decimal of the value of a double's shortest decimal, or of any other decimal that is read as
that double, is read as that double. -/
theorem ofDecimal_of_value {s s' : Nat} {e e' : Int} {units : Nat} (negative : Bool)
    (hrep : Representable units) (hread : decimalUnits s e = units)
    (hvalue : (s' : ℚ) * 10 ^ e' = s * 10 ^ e) :
    ofDecimal negative s' e' = .finite negative units hrep := by
  have hunits : decimalUnits s' e' = units := (decimalUnits_congr hvalue).trans hread
  rw [ofDecimal_eq]
  simp only [hunits, hrep, dif_pos]

/-! ### Finite numbers -/

theorem exists_of_isFinite {x : Binary64} (hfinite : x.isFinite) :
    ∃ negative units, ∃ hrep : Representable units, x = .finite negative units hrep := by
  cases x with
  | nan => simp [isFinite] at hfinite
  | infinite negative => simp [isFinite] at hfinite
  | finite negative units hrep => exact ⟨negative, units, hrep, rfl⟩

theorem isFinite_of_safeInteger? {x : Binary64} {n : Int} (h : x.safeInteger? = some n) :
    x.isFinite = true := by
  cases x with
  | nan => simp [safeInteger?] at h
  | infinite negative => simp [safeInteger?] at h
  | finite negative units hrep => rfl

/-- The number without the sign of a zero. -/
def unsignedZero : Binary64 → Binary64
  | .finite negative units h => if units = 0 then zero false else .finite negative units h
  | x => x

theorem unsignedZero_unsignedZero (x : Binary64) :
    x.unsignedZero.unsignedZero = x.unsignedZero := by
  cases x with
  | nan => rfl
  | infinite negative => rfl
  | finite negative units hrep =>
      by_cases hunits : units = 0
      · simp [unsignedZero, zero, hunits]
      · simp [unsignedZero, hunits]

theorem isFinite_unsignedZero {x : Binary64} (hfinite : x.isFinite) : x.unsignedZero.isFinite := by
  obtain ⟨negative, units, hrep, rfl⟩ := exists_of_isFinite hfinite
  rw [unsignedZero]
  split <;> rfl

theorem same_of_unsignedZero_eq {x y : Binary64} (hx : x.isFinite) (hy : y.isFinite)
    (h : x.unsignedZero = y.unsignedZero) : x.same y = true := by
  obtain ⟨s, m, hm, rfl⟩ := exists_of_isFinite hx
  obtain ⟨t, n, hn, rfl⟩ := exists_of_isFinite hy
  simp only [unsignedZero, zero] at h
  split at h <;> split at h <;> simp_all [same]

/-! ### Integers -/

theorem ofInt_natCast (n : Nat) : ofInt (n : Int) = ofRatio false (n * one) 1 := rfl

theorem ofInt_negSucc (n : Nat) : ofInt (Int.negSucc n) = ofRatio true ((n + 1) * one) 1 := rfl

/-- The integer form of a number is read as the number itself, but for the sign of a zero. -/
theorem ofInt_of_safeInteger? {x : Binary64} {n : Int} (h : x.safeInteger? = some n) :
    ofInt n = x.unsignedZero := by
  obtain ⟨negative, units, hrep, rfl⟩ := exists_of_isFinite (isFinite_of_safeInteger? h)
  simp only [safeInteger?, Option.ite_none_right_eq_some, Option.some.injEq] at h
  obtain ⟨⟨hmod, -⟩, hn⟩ := h
  have hunits : units / one * one = units := Nat.div_mul_cancel (Nat.dvd_of_mod_eq_zero hmod)
  generalize hq : units / one = q at hn hunits
  -- Zero is a case of its own: its integer has lost the sign.
  cases q with
  | zero =>
      obtain rfl : units = 0 := by simpa using hunits.symm
      obtain rfl : n = (0 : Nat) := by simpa using hn.symm
      rw [ofInt_natCast, Nat.zero_mul, ofRatio_one_of_representable false representable_zero]
      rfl
  | succ q =>
      have hpos : units ≠ 0 := by
        rintro rfl
        simp at hq
      simp only [unsignedZero, if_neg hpos]
      subst hunits
      cases negative with
      | false =>
          obtain rfl : n = (q + 1 : Nat) := by simpa using hn.symm
          rw [ofInt_natCast, ofRatio_one_of_representable false hrep]
      | true =>
          obtain rfl : n = Int.negSucc q := by simpa [Int.negSucc_eq] using hn.symm
          rw [ofInt_negSucc, ofRatio_one_of_representable true hrep]

end SnippetBridge.Binary64
