import Mathlib.Algebra.Order.Field.Power
import Mathlib.Tactic.Linarith
import Mathlib.Tactic.NormNum
import SnippetBridge.Binary64.Text
import SnippetBridge.Proofs.Binary64.Integer
import SnippetBridge.Proofs.Binary64.Monotone

/-!
The shortest decimal of a double has the least number of digits. A decimal close enough to a double
is read as it, and seventeen digits come that close, so the search always ends on a grid. On a
coarser grid no point is read as the double, since a neighbour of the double would be as well; and
a decimal on a finer grid with fewer digits lies below a power of ten that would be read as it too.
-/

namespace SnippetBridge

namespace Binary64

/-! ### Close to a double -/

theorem roundHalfEven_eq {num den k : Nat} (hlow : 2 * (k * den) < 2 * num + den)
    (hhigh : 2 * num < 2 * (k * den) + den) : roundHalfEven num den = k := by
  have hden : 0 < den := by omega
  have hsplit := Nat.div_add_mod num den
  rcases Nat.lt_or_ge num (k * den) with hlt | hge
  · have hk : k ≠ 0 := by
      rintro rfl
      simp at hlt
    obtain ⟨k, rfl⟩ : ∃ j, k = j + 1 := Nat.exists_eq_add_one_of_ne_zero hk
    rw [Nat.add_mul, Nat.one_mul] at hlow hlt
    have hquotient : num / den = k := by
      apply Nat.div_eq_of_lt_le
      · omega
      · rwa [Nat.succ_mul]
    rw [hquotient, Nat.mul_comm] at hsplit
    simp only [roundHalfEven, hquotient]
    split_ifs <;> omega
  · have hquotient : num / den = k := by
      apply Nat.div_eq_of_lt_le hge
      rw [Nat.succ_mul]
      omega
    rw [hquotient, Nat.mul_comm] at hsplit
    simp only [roundHalfEven, hquotient]
    split_ifs <;> omega

section Close

variable {num den units : Nat}

/-- A double close to a ratio has at most 53 bits on the grid where the ratio is rounded. -/
theorem le_spacing_mul_of_close (hden : 0 < den) (hgrid : spacing units ∣ units)
    (hlow : 2 ^ 54 * (units * den) < 2 ^ 54 * num + units * den) :
    units ≤ spacing (num / den) * 2 ^ 53 := by
  let q := num / den
  let gap := spacing q
  by_contra hexcess
  have hgt : gap * 2 ^ 53 < units := Nat.not_le.mp hexcess
  -- The double would be two gaps further on, since its own grid is twice as coarse.
  have hcoarse : 2 * gap ∣ units := by
    have hpow : 2 ^ (q.log2 - 52 + 53) ≤ units := (Nat.pow_add ..).trans_le hgt.le
    have hpos : units ≠ 0 := (Nat.zero_le _).trans_lt hgt |>.ne'
    have hlog : q.log2 - 52 + 53 ≤ units.log2 := (Nat.le_log2 hpos).mpr hpow
    calc
      2 * gap = 2 ^ (q.log2 - 52 + 1) := (Nat.pow_succ').symm
      _ ∣ spacing units := Nat.pow_dvd_pow 2 (by omega)
      _ ∣ units := hgrid
  have hfar : gap * 2 ^ 53 + 2 * gap ≤ units := by
    by_contra hlt
    have hle : units ≤ gap * 2 ^ 53 :=
      Nat.le_of_lt_add_of_dvd (Nat.not_le.mp hlt) hcoarse ⟨2 ^ 52, by ring⟩
    exact hexcess hle
  have hnum : num < gap * 2 ^ 53 * den := by
    calc
      num < (q + 1) * den := by
        rw [Nat.mul_comm]
        exact Nat.lt_mul_div_succ num hden
      _ ≤ gap * 2 ^ 53 * den := Nat.mul_le_mul_right den (lt_spacing_mul q)
  have hunits : (gap * 2 ^ 53 + 2 * gap) * den ≤ units * den := Nat.mul_le_mul_right den hfar
  have hexpand : (gap * 2 ^ 53 + 2 * gap) * den = 2 ^ 53 * (gap * den) + 2 * (gap * den) := by ring
  have hexpand' : gap * 2 ^ 53 * den = 2 ^ 53 * (gap * den) := by ring
  omega

/-- A double that is close to a ratio is on the grid where the ratio is rounded. -/
theorem spacing_dvd_of_close (hgrid : spacing units ∣ units)
    (hhigh : 2 ^ 54 * num < 2 ^ 54 * (units * den) + units * den) :
    spacing (num / den) ∣ units := by
  let q := num / den
  rcases Nat.lt_or_ge units.log2 q.log2 with hgt | hle
  · -- A power of two would separate the two, a whole gap above the double.
    exfalso
    let gap := spacing units
    have hq : q ≠ 0 := by
      intro hzero
      simp [hzero] at hgt
    have hpow : 2 ^ (units.log2 + 1) ≤ q :=
      (Nat.pow_le_pow_right (by decide) hgt).trans (Nat.log2_self_le hq)
    have hfar : units + gap ≤ 2 ^ (units.log2 + 1) := by
      by_contra hlt
      have hle : 2 ^ (units.log2 + 1) ≤ units :=
        Nat.le_of_lt_add_of_dvd (Nat.not_le.mp hlt) (Nat.pow_dvd_pow 2 (by omega)) hgrid
      exact absurd Nat.lt_log2_self hle.not_gt
    have hnum : (units + gap) * den ≤ num := by
      calc
        (units + gap) * den ≤ q * den := Nat.mul_le_mul_right den (hfar.trans hpow)
        _ ≤ num := Nat.div_mul_le_self num den
    have hunits : units * den ≤ gap * 2 ^ 53 * den :=
      Nat.mul_le_mul_right den (lt_spacing_mul units).le
    have hexpand : gap * 2 ^ 53 * den = 2 ^ 53 * (gap * den) := by ring
    rw [Nat.add_mul] at hnum
    omega
  · have hfine : spacing q ∣ spacing units := Nat.pow_dvd_pow 2 (by omega)
    exact hfine.trans hgrid

/-- A ratio is rounded to a double if it is within a part in `2 ^ 54` of it. -/
theorem nearestUnits_of_close (hden : 0 < den) (hgrid : spacing units ∣ units)
    (hlow : 2 ^ 54 * (units * den) < 2 ^ 54 * num + units * den)
    (hhigh : 2 ^ 54 * num < 2 ^ 54 * (units * den) + units * den) :
    nearestUnits num den = units := by
  let gap := spacing (num / den)
  have hbits : units ≤ gap * 2 ^ 53 := le_spacing_mul_of_close hden hgrid hlow
  obtain ⟨k, rfl⟩ : gap ∣ units := spacing_dvd_of_close hgrid hhigh
  have hmul : gap * k * den = k * (den * gap) := by ring
  have hsmall : k * (den * gap) ≤ 2 ^ 53 * (den * gap) :=
    Nat.mul_le_mul_right _ (Nat.le_of_mul_le_mul_left hbits (spacing_pos _))
  rw [hmul] at hlow hhigh
  have hround : roundHalfEven num (den * gap) = k := roundHalfEven_eq (by omega) (by omega)
  rw [nearestUnits, hround, Nat.mul_comm]

end Close

/-- A decimal is read as a double if it is within a part in `2 ^ 54` of it. -/
theorem decimalUnits_of_close {units s : Nat} {e : Int} (hrep : Representable units)
    (hlow : 2 ^ 54 * ((units : ℚ) / one) < 2 ^ 54 * (s * 10 ^ e) + units / one)
    (hhigh : 2 ^ 54 * ((s : ℚ) * 10 ^ e) < 2 ^ 54 * (units / one) + units / one) :
    decimalUnits s e = units := by
  rw [decimal_value] at hlow hhigh
  rw [decimalUnits_eq]
  have hden : 0 < 10 ^ (-e).toNat := Nat.pow_pos (by decide)
  generalize s * 10 ^ e.toNat = num at hlow hhigh
  generalize 10 ^ (-e).toNat = den at hden hlow hhigh
  have hden' : (0 : ℚ) < den := by exact_mod_cast hden
  have hone : (0 : ℚ) < one := by exact_mod_cast one_pos
  -- Both sides over the common denominator.
  have hscale : (0 : ℚ) < one * den := mul_pos hone hden'
  have hunits : (units : ℚ) / one * (one * den) = units * den := by field_simp
  have hnum : (num : ℚ) / den * (one * den) = num * one := by field_simp
  have hlow' := mul_lt_mul_of_pos_right hlow hscale
  have hhigh' := mul_lt_mul_of_pos_right hhigh hscale
  rw [add_mul, mul_assoc, mul_assoc, hunits, hnum] at hlow' hhigh'
  apply nearestUnits_of_close hden hrep.2
  · exact_mod_cast hlow'
  · exact_mod_cast hhigh'

/-! ### The digits of a number -/

theorem lt_pow_length_toDigits (n : Nat) : n < 10 ^ (Nat.toDigits 10 n).length :=
  (Nat.length_toDigits_le_iff (by decide) Nat.length_toDigits_pos).mp le_rfl

theorem pow_length_toDigits_le {n : Nat} (hpos : 0 < n) :
    10 ^ ((Nat.toDigits 10 n).length - 1) ≤ n := by
  rcases Nat.eq_zero_or_pos ((Nat.toDigits 10 n).length - 1) with hzero | hmore
  · rw [hzero]
    exact hpos
  · by_contra hlt
    have hfewer := (Nat.length_toDigits_le_iff (by decide) hmore).mpr (Nat.not_le.mp hlt)
    omega

/-- The digits that the magnitude of a positive double is counted by. -/
theorem scaled_bounds {units length : Nat} (hpos : 0 < units)
    (hlength : (Nat.toDigits 10 (units * 10 ^ 324 / one)).length = length + 1) :
    10 ^ length * one ≤ units * 10 ^ 324 ∧ units * 10 ^ 324 < 10 ^ (length + 1) * one := by
  let scaled := units * 10 ^ 324 / one
  have hscaled : 0 < scaled := by
    apply Nat.div_pos _ one_pos
    calc
      one ≤ 10 ^ 324 := by decide +kernel
      _ ≤ units * 10 ^ 324 := Nat.le_mul_of_pos_left _ hpos
  have hlow := pow_length_toDigits_le hscaled
  have hhigh := lt_pow_length_toDigits scaled
  rw [hlength] at hlow hhigh
  constructor
  · calc
      10 ^ length * one ≤ scaled * one := Nat.mul_le_mul_right one hlow
      _ ≤ units * 10 ^ 324 := Nat.div_mul_le_self ..
  · exact (Nat.div_lt_iff_lt_mul one_pos).mp hhigh

/-- A positive double is below its power of ten, and no less than a tenth of it. -/
theorem decimalMagnitude_spec {units : Nat} (hpos : 0 < units) :
    (10 : ℚ) ^ (decimalMagnitude units - 1) ≤ (units : ℚ) / one ∧
      (units : ℚ) / one < 10 ^ decimalMagnitude units := by
  obtain ⟨length, hlength⟩ : ∃ n, (Nat.toDigits 10 (units * 10 ^ 324 / one)).length = n + 1 :=
    Nat.exists_eq_add_one_of_ne_zero Nat.length_toDigits_pos.ne'
  obtain ⟨hlow, hhigh⟩ := scaled_bounds hpos hlength
  have hmagnitude : decimalMagnitude units = ((length + 1 : Nat) : Int) - (324 : Nat) :=
    congrArg (fun n : Nat => (n : Int) - 324) hlength
  have hexponent : decimalMagnitude units - 1 = (length : Int) - (324 : Nat) := by omega
  have hone : (0 : ℚ) < one := by exact_mod_cast one_pos
  have hpow : (0 : ℚ) < 10 ^ 324 := by positivity
  constructor
  · rw [hexponent, zpow_sub₀ (by norm_num), zpow_natCast, zpow_natCast, div_le_div_iff₀ hpow hone]
    exact_mod_cast hlow
  · rw [hmagnitude, zpow_sub₀ (by norm_num), zpow_natCast, zpow_natCast, div_lt_div_iff₀ hone hpow]
    exact_mod_cast hhigh

/-! ### Points of a grid -/

/-- The last multiple of `10 ^ exponent` up to a magnitude. -/
def gridFloor (units : Nat) : Int → Nat
  | .ofNat e => units / (one * 10 ^ e)
  | .negSucc e => units * 10 ^ (e + 1) / one

theorem gridFloor_spec (units : Nat) (exponent : Int) :
    (gridFloor units exponent : ℚ) * 10 ^ exponent ≤ (units : ℚ) / one ∧
      (units : ℚ) / one < (gridFloor units exponent + 1 : Nat) * 10 ^ exponent := by
  have hone : (0 : ℚ) < one := by exact_mod_cast one_pos
  cases exponent with
  | ofNat e =>
      have hden : 0 < one * 10 ^ e := Nat.mul_pos one_pos (Nat.pow_pos (by decide))
      have hlow : units / (one * 10 ^ e) * (one * 10 ^ e) ≤ units := Nat.div_mul_le_self ..
      have hhigh : units < (units / (one * 10 ^ e) + 1) * (one * 10 ^ e) :=
        (Nat.div_lt_iff_lt_mul hden).mp (Nat.lt_succ_self _)
      simp only [gridFloor, Int.ofNat_eq_natCast, zpow_natCast]
      generalize units / (one * 10 ^ e) = low at hlow hhigh
      rw [le_div_iff₀ hone, div_lt_iff₀ hone]
      rw [Nat.mul_comm one, ← Nat.mul_assoc] at hlow hhigh
      exact ⟨by exact_mod_cast hlow, by exact_mod_cast hhigh⟩
  | negSucc e =>
      have hlow : units * 10 ^ (e + 1) / one * one ≤ units * 10 ^ (e + 1) := Nat.div_mul_le_self ..
      have hhigh : units * 10 ^ (e + 1) < (units * 10 ^ (e + 1) / one + 1) * one :=
        (Nat.div_lt_iff_lt_mul one_pos).mp (Nat.lt_succ_self _)
      have hpow : (0 : ℚ) < 10 ^ (e + 1) := by positivity
      simp only [gridFloor, zpow_negSucc, ← div_eq_mul_inv]
      generalize units * 10 ^ (e + 1) / one = low at hlow hhigh
      rw [div_le_div_iff₀ hpow hone, div_lt_div_iff₀ hone hpow]
      exact ⟨by exact_mod_cast hlow, by exact_mod_cast hhigh⟩

variable {tie : Tie} {units : Nat} {exponent : Int}

/-- The search on one grid: it fails if neither neighbour of the magnitude is read as it, and else
ends at one of the two. -/
theorem onGrid?_spec (tie : Tie) (units : Nat) (exponent : Int) :
    (onGrid? tie units exponent = none →
      decimalUnits (gridFloor units exponent) exponent ≠ units ∧
        decimalUnits (gridFloor units exponent + 1) exponent ≠ units) ∧
    ∀ significand, onGrid? tie units exponent = some significand →
      significand = gridFloor units exponent ∨ significand = gridFloor units exponent + 1 := by
  unfold onGrid?
  split
  rename_i num den hratio
  have hfloor : gridFloor units exponent = num / den := by
    cases exponent <;> (cases hratio; rfl)
  dsimp only
  rw [hfloor]
  clear hratio hfloor
  generalize num / den = low
  cases hlow : decimalUnits low exponent == units with
  | false =>
      cases hhigh : decimalUnits (low + 1) exponent == units with
      | false => exact ⟨fun _ => ⟨ne_of_beq_false hlow, ne_of_beq_false hhigh⟩, by simp⟩
      | true => simp
  | true =>
      cases hhigh : decimalUnits (low + 1) exponent == units with
      | false => simp
      | true => cases tie <;> grind

/-- A grid with a point that is read as a double is not passed over. -/
theorem onGrid?_ne_none {point : Nat} (hrep : Representable units)
    (hread : decimalUnits point exponent = units) : onGrid? tie units exponent ≠ none := by
  intro hnone
  obtain ⟨hbelow, habove⟩ := (onGrid?_spec tie units exponent).1 hnone
  obtain ⟨hlow, hhigh⟩ := gridFloor_spec units exponent
  have hpow : (0 : ℚ) ≤ 10 ^ exponent := by positivity
  have hmono {m n : Nat} (h : m ≤ n) : (m : ℚ) * 10 ^ exponent ≤ n * 10 ^ exponent :=
    mul_le_mul_of_nonneg_right (by exact_mod_cast h) hpow
  -- The neighbour of the double on the side of the point lies between the two.
  rcases Nat.le_or_ge point (gridFloor units exponent) with hle | hge
  · exact hbelow (decimalUnits_between hrep hread (.inr ⟨hmono hle, hlow⟩))
  · rcases hge.eq_or_lt with heq | hlt
    · exact hbelow (heq ▸ hread)
    · exact habove (decimalUnits_between hrep hread (.inl ⟨hhigh.le, hmono hlt⟩))

/-- Seventeen digits are enough to tell a double from its neighbours. -/
theorem onGrid?_seventeen_ne_none (hrep : Representable units) (hpos : 0 < units) :
    onGrid? tie units (decimalMagnitude units - 17) ≠ none := by
  intro hnone
  obtain ⟨hbelow, habove⟩ := (onGrid?_spec tie units _).1 hnone
  obtain ⟨hlow, hhigh⟩ := gridFloor_spec units (decimalMagnitude units - 17)
  have hmagnitude := (decimalMagnitude_spec hpos).1
  have hsplit : (10 : ℚ) ^ (decimalMagnitude units - 1) =
      10 ^ 16 * 10 ^ (decimalMagnitude units - 17) := by
    rw [← zpow_natCast, ← zpow_add₀ (by norm_num)]
    congr 1
    omega
  have hstep : (0 : ℚ) < 10 ^ (decimalMagnitude units - 17) := by positivity
  rw [hsplit] at hmagnitude
  generalize decimalMagnitude units - 17 = e at *
  generalize gridFloor units e = low at *
  have hnext : ((low + 1 : Nat) : ℚ) * 10 ^ e = low * 10 ^ e + 10 ^ e := by push_cast; ring
  -- The nearer neighbour is half a step away at most, and `2 ^ 53 < 10 ^ 16`.
  rcases le_total ((units : ℚ) / one - low * 10 ^ e) (10 ^ e / 2) with hnear | hfar
  · apply hbelow
    apply decimalUnits_of_close hrep <;> linarith
  · apply habove
    rw [hnext] at hhigh
    apply decimalUnits_of_close hrep <;> rw [hnext] <;> linarith

/-! ### The search -/

/-- The search ends on the first grid with a neighbour that is read as the double. -/
theorem search_spec {steps last : Nat} (hlast : last < steps)
    (hfound : onGrid? tie units (exponent - last) ≠ none) :
    ∃ passed, passed ≤ last ∧
      onGrid? tie units (exponent - passed) =
        some (search tie units steps exponent).significand ∧
      (search tie units steps exponent).exponent = exponent - passed ∧
      ∀ k < passed, onGrid? tie units (exponent - k) = none := by
  induction steps generalizing exponent last with
  | zero => omega
  | succ steps ih =>
      rw [search]
      cases hgrid : onGrid? tie units exponent with
      | some significand => exact ⟨0, Nat.zero_le _, by simpa using hgrid, by simp, by simp⟩
      | none =>
          obtain _ | last := last
          · simp [hgrid] at hfound
          have hshift (k : Nat) : exponent - 1 - (k : Int) = exponent - ((k + 1 : Nat) : Int) := by
            omega
          rw [← hshift] at hfound
          obtain ⟨passed, hpassed, hpoint, hexponent, hnone⟩ :=
            ih (Nat.lt_of_succ_lt_succ hlast) hfound
          refine ⟨passed + 1, Nat.succ_le_succ hpassed, ?_, ?_, fun k hk => ?_⟩
          · rwa [← hshift]
          · rwa [← hshift]
          · cases k with
            | zero => simpa using hgrid
            | succ k => rw [← hshift, hnone k (Nat.lt_of_succ_lt_succ hk)]

/-- The search ends next to the double, on the coarsest grid that is not coarser than the double. -/
theorem shortest_spec (hrep : Representable units) (hpos : 0 < units) (tie : Tie) :
    (shortest tie units).exponent ≤ decimalMagnitude units ∧
      (shortest tie units).significand ≤ gridFloor units (shortest tie units).exponent + 1 ∧
      ∀ point e, decimalUnits point e = units → e ≤ decimalMagnitude units →
        e ≤ (shortest tie units).exponent := by
  have hfound : onGrid? tie units (decimalMagnitude units - (17 : Nat)) ≠ none :=
    onGrid?_seventeen_ne_none hrep hpos
  obtain ⟨passed, -, hpoint, hexponent, hnone⟩ := search_spec (show 17 < 18 by decide) hfound
  change onGrid? tie units _ = some (shortest tie units).significand at hpoint
  change (shortest tie units).exponent = _ at hexponent
  rw [hexponent]
  refine ⟨by omega, ?_, fun point e hread he => ?_⟩
  · rcases (onGrid?_spec tie units _).2 _ hpoint with hlow | hhigh
    · exact hlow.trans_le (Nat.le_succ _)
    · exact hhigh.le
  · by_contra hcoarse
    obtain ⟨k, hk⟩ := Int.eq_ofNat_of_zero_le (sub_nonneg.mpr he)
    obtain rfl : e = decimalMagnitude units - k := by omega
    exact onGrid?_ne_none hrep hread (hnone k (by omega))

end Binary64

namespace Decimal

/-- A decimal that is read as a magnitude, with no more digits than any other such decimal. -/
structure Shortest (d : Decimal) (units : Nat) : Prop where
  reads : Binary64.decimalUnits d.significand d.exponent = units
  least : ∀ d' : Decimal, Binary64.decimalUnits d'.significand d'.exponent = units →
    d.digits.length ≤ d'.digits.length

/-! ### The value of digits -/

theorem value_lt (d : Decimal) :
    (d.significand : ℚ) * 10 ^ d.exponent < 10 ^ (d.exponent + d.digits.length) := by
  have hdigits : (d.significand : ℚ) < 10 ^ d.digits.length := by
    exact_mod_cast Binary64.lt_pow_length_toDigits d.significand
  rw [zpow_add₀ (by norm_num), zpow_natCast, mul_comm]
  exact mul_lt_mul_of_pos_left hdigits (by positivity)

theorem le_value {d : Decimal} (h : d.significand ≠ 0) :
    (10 : ℚ) ^ (d.exponent + d.digits.length - 1) ≤ d.significand * 10 ^ d.exponent := by
  have hlength : 0 < d.digits.length := Nat.length_toDigits_pos
  have hdigits : (10 : ℚ) ^ (d.digits.length - 1) ≤ d.significand := by
    exact_mod_cast Binary64.pow_length_toDigits_le (Nat.pos_of_ne_zero h)
  have hsplit : d.exponent + d.digits.length - 1 =
      ((d.digits.length - 1 : Nat) : Int) + d.exponent := by omega
  rw [hsplit, zpow_add₀ (by norm_num), zpow_natCast]
  exact mul_le_mul_of_nonneg_right hdigits (by positivity)

end Decimal

namespace Binary64

/-! ### Least digits -/

/-- A decimal on a coarser grid is a point of every finer one. -/
theorem exists_point (s : Nat) {e e' : Int} (h : e' ≤ e) :
    ∃ point : Nat, (point : ℚ) * 10 ^ e' = s * 10 ^ e := by
  obtain ⟨k, hk⟩ := Int.eq_ofNat_of_zero_le (sub_nonneg.mpr h)
  obtain rfl : e = k + e' := by omega
  refine ⟨s * 10 ^ k, ?_⟩
  rw [zpow_add₀ (by norm_num), zpow_natCast]
  push_cast
  ring

section Digits

variable {units : Nat}

/-- There is no digit before the first place below the power of ten above the double. -/
theorem length_digits_shortest (hrep : Representable units) (hpos : 0 < units) (tie : Tie) :
    ((shortest tie units).digits.length : Int) ≤
      max 1 (decimalMagnitude units - (shortest tie units).exponent) := by
  obtain ⟨hexponent, hsignificand, hcoarsest⟩ := shortest_spec hrep hpos tie
  have hhigh := (decimalMagnitude_spec hpos).2
  have hself := decimalUnits_shortest hrep tie
  generalize shortest tie units = c at *
  generalize decimalMagnitude units = magnitude at *
  obtain ⟨k, hk⟩ := Int.eq_ofNat_of_zero_le (sub_nonneg.mpr hexponent)
  obtain rfl : magnitude = k + c.exponent := by omega
  have hpow : (10 : ℚ) ^ (k + c.exponent) = 10 ^ k * 10 ^ c.exponent := by
    rw [zpow_add₀ (by norm_num), zpow_natCast]
  have hbound : c.significand ≤ 10 ^ k := by
    have hfloor := (gridFloor_spec units c.exponent).1.trans_lt hhigh
    have hless : (gridFloor units c.exponent : ℚ) < 10 ^ k :=
      lt_of_mul_lt_mul_right (hpow ▸ hfloor) (by positivity)
    have hnat : gridFloor units c.exponent < 10 ^ k := by exact_mod_cast hless
    exact hsignificand.trans hnat
  cases k with
  | zero =>
      have hone : c.digits.length ≤ 1 :=
        (Nat.length_toDigits_le_iff (by decide) Nat.one_pos).mpr (by omega)
      omega
  | succ k =>
      -- The power of ten itself is a point of the coarsest grid.
      have hne : c.significand ≠ 10 ^ (k + 1) := by
        intro hpower
        have hread : decimalUnits 1 ((k + 1 : Nat) + c.exponent) = units := by
          rw [← hself, hpower]
          apply decimalUnits_congr
          rw [hpow]
          push_cast
          ring
        have hcoarse := hcoarsest 1 _ hread le_rfl
        omega
      have hlength : c.digits.length ≤ k + 1 :=
        (Nat.length_toDigits_le_iff (by decide) (Nat.succ_pos k)).mpr (hbound.lt_of_ne hne)
      omega

/-- A decimal that is read as the double has digits down to the grid where the search ends. -/
theorem magnitude_le_of_reads (hrep : Representable units) (hpos : 0 < units) (tie : Tie)
    {d : Decimal} (hread : decimalUnits d.significand d.exponent = units) :
    decimalMagnitude units ≤ (shortest tie units).exponent + d.digits.length := by
  obtain ⟨hexponent, -, hcoarsest⟩ := shortest_spec hrep hpos tie
  have hlow := (decimalMagnitude_spec hpos).1
  have hdigits : 0 < d.digits.length := Nat.length_toDigits_pos
  generalize (shortest tie units).exponent = e at *
  generalize decimalMagnitude units = magnitude at *
  by_contra hfew
  rcases le_or_gt d.exponent e with hfine | hcoarse
  · -- The decimal is below a power of ten up to the double, which is then read as the double too.
    have hpower : decimalUnits 1 (magnitude - 1) = units := by
      apply decimalUnits_between hrep hread
      refine .inr ⟨?_, by rwa [Nat.cast_one, one_mul]⟩
      calc
        (d.significand : ℚ) * 10 ^ d.exponent ≤ 10 ^ (d.exponent + d.digits.length) :=
          (Decimal.value_lt d).le
        _ ≤ 10 ^ (magnitude - 1) := zpow_le_zpow_right₀ (by norm_num) (by omega)
        _ = ((1 : Nat) : ℚ) * 10 ^ (magnitude - 1) := by simp
    have hcontra := hcoarsest 1 _ hpower (by omega)
    omega
  · obtain ⟨point, hpoint⟩ := exists_point d.significand (min_le_left d.exponent magnitude)
    have hcontra := hcoarsest point _ ((decimalUnits_congr hpoint).trans hread) (min_le_right ..)
    omega

/-- The shortest decimal has the least number of digits. -/
theorem shortest_isShortest (hrep : Representable units) (hpos : 0 < units) (tie : Tie) :
    (shortest tie units).Shortest units where
  reads := decimalUnits_shortest hrep tie
  least d hread := by
    have hupper := length_digits_shortest hrep hpos tie
    have hlower := magnitude_le_of_reads hrep hpos tie hread
    have hdigits : 0 < d.digits.length := Nat.length_toDigits_pos
    omega

end Digits

/-! ### Integers -/

theorem value_of_integer {units n : Nat} (h : units = n * one) : (units : ℚ) / one = n := by
  have hone : (one : ℚ) ≠ 0 := by exact_mod_cast one_pos.ne'
  rw [h, Nat.cast_mul, mul_div_cancel_right₀ _ hone]

theorem decimalUnits_integer {n : Nat} (h : n ≤ 2 ^ 53) : decimalUnits n 0 = n * one := by
  have hvalue : (n : ℚ) * 10 ^ (0 : Int) = ((n * one : Nat) : ℚ) / one := by
    rw [value_of_integer rfl, zpow_zero, mul_one]
  exact (decimalUnits_of_value hvalue).trans
    (nearestUnits_one_of_dvd (spacing_dvd_mul_pow h 1074))

/-- No two integers are read as an integer below `2 ^ 53`. -/
theorem eq_of_decimalUnits {m n : Nat} (h : n < 2 ^ 53) (hread : decimalUnits m 0 = n * one) :
    m = n := by
  have hmono {a b : Nat} (hab : a ≤ b) : decimalUnits a 0 ≤ decimalUnits b 0 :=
    decimalUnits_mono (by simpa using hab)
  rcases Nat.lt_trichotomy m n with hlt | heq | hgt
  · rw [decimalUnits_integer (hlt.trans h).le] at hread
    exact Nat.eq_of_mul_eq_mul_right one_pos hread
  · exact heq
  · have hnext := hmono hgt
    rw [hread, decimalUnits_integer h] at hnext
    exact absurd (Nat.le_of_mul_le_mul_right hnext one_pos) (Nat.not_succ_le_self n)

/-- The shortest decimal of an integer below `2 ^ 53` is of its value. -/
theorem value_shortest_of_integer {n : Nat} (hpos : 0 < n) (h : n < 2 ^ 53) (tie : Tie) :
    ((shortest tie (n * one)).significand : ℚ) * 10 ^ (shortest tie (n * one)).exponent = n := by
  have hrep : Representable (n * one) := representable_mul_one h
  have hunits : 0 < n * one := Nat.mul_pos hpos one_pos
  -- The integer is a point of the grid of the integers.
  have hmagnitude : 0 ≤ decimalMagnitude (n * one) := by
    by_contra hneg
    have hhigh := (decimalMagnitude_spec hunits).2
    rw [value_of_integer rfl] at hhigh
    have hle : (10 : ℚ) ^ decimalMagnitude (n * one) ≤ 1 :=
      zpow_le_one_of_nonpos₀ (by norm_num) (by omega)
    have hlt : (n : ℚ) < 1 := hhigh.trans_le hle
    have hnat : n < 1 := by exact_mod_cast hlt
    omega
  have hexponent : 0 ≤ (shortest tie (n * one)).exponent :=
    (shortest_spec hrep hunits tie).2.2 n 0 (decimalUnits_integer h.le) hmagnitude
  have hread := decimalUnits_shortest hrep tie
  generalize shortest tie (n * one) = c at *
  obtain ⟨m, hm⟩ := exists_point c.significand hexponent
  rw [← hm, ← eq_of_decimalUnits h ((decimalUnits_congr hm).trans hread)]
  simp

end Binary64

end SnippetBridge
