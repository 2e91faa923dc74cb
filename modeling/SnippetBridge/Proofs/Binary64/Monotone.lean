import Mathlib.Algebra.Order.Ring.Rat
import Mathlib.Data.Nat.Log
import SnippetBridge.Proofs.Binary64.Shortest

/-!
Rounding keeps order. A greater ratio is never rounded to a smaller double, also where the grid of
the doubles becomes coarser between the two. So the decimals that are read as a double lie together:
what is between two of them, or between one of them and the double itself, is read as it as well.
-/

namespace SnippetBridge.Binary64

/-! ### Ratios -/

theorem spacing_dvd_spacing {units units' : Nat} (h : units ≤ units') :
    spacing units ∣ spacing units' := by
  have hlog : units.log2 ≤ units'.log2 := by
    rw [Nat.log2_eq_log_two, Nat.log2_eq_log_two]
    exact Nat.log_mono_right h
  exact Nat.pow_dvd_pow 2 (by omega)

theorem roundHalfEven_mono {num num' : Nat} (den : Nat) (h : num ≤ num') :
    roundHalfEven num den ≤ roundHalfEven num' den := by
  have hquotient : num / den ≤ num' / den := Nat.div_le_div_right h
  rcases hquotient.lt_or_eq with hlt | heq
  · calc
      roundHalfEven num den ≤ num / den + 1 := roundHalfEven_le num den
      _ ≤ num' / den := hlt
      _ ≤ roundHalfEven num' den := le_roundHalfEven num' den
  · have hremainder : num % den ≤ num' % den := by
      have hsplit := Nat.div_add_mod num den
      have hsplit' := Nat.div_add_mod num' den
      rw [← heq] at hsplit'
      omega
    simp only [roundHalfEven, ← heq]
    split_ifs <;> omega

/-- No ratio up to a point of its grid is rounded beyond the point. -/
theorem nearestUnits_le_of_dvd {num den point : Nat} (hden : 0 < den)
    (hpoint : spacing (num / den) ∣ point) (h : num ≤ point * den) :
    nearestUnits num den ≤ point := by
  obtain ⟨k, rfl⟩ := hpoint
  let gap := spacing (num / den)
  have hround : roundHalfEven num (den * gap) ≤ k := by
    calc
      roundHalfEven num (den * gap) ≤ roundHalfEven (k * (den * gap)) (den * gap) :=
        roundHalfEven_mono _ (h.trans_eq (by ring))
      _ = k := roundHalfEven_of_mul (Nat.mul_pos hden (spacing_pos _)) k
  exact (Nat.mul_le_mul_right gap hround).trans_eq (Nat.mul_comm k gap)

/-- No ratio from a point of its grid on is rounded below the point. -/
theorem le_nearestUnits_of_dvd {num den point : Nat} (hden : 0 < den)
    (hpoint : spacing (num / den) ∣ point) (h : point * den ≤ num) :
    point ≤ nearestUnits num den := by
  obtain ⟨k, rfl⟩ := hpoint
  let gap := spacing (num / den)
  have hround : k ≤ roundHalfEven num (den * gap) := by
    calc
      k = roundHalfEven (k * (den * gap)) (den * gap) :=
        (roundHalfEven_of_mul (Nat.mul_pos hden (spacing_pos _)) k).symm
      _ ≤ roundHalfEven num (den * gap) := roundHalfEven_mono _ (h.trans_eq' (by ring))
  exact (Nat.mul_comm gap k).trans_le (Nat.mul_le_mul_right gap hround)

theorem nearestUnits_mono_left {num num' den : Nat} (hden : 0 < den) (h : num ≤ num') :
    nearestUnits num den ≤ nearestUnits num' den := by
  have hquotient : num / den ≤ num' / den := Nat.div_le_div_right h
  generalize hq : num / den = q at hquotient
  generalize hq' : num' / den = q' at hquotient
  rcases (Nat.le_of_dvd (spacing_pos q') (spacing_dvd_spacing hquotient)).eq_or_lt with heq | hlt
  · simp only [nearestUnits, hq, hq', heq]
    exact Nat.mul_le_mul_right _ (roundHalfEven_mono _ h)
  · -- The grid becomes coarser on the way, so a power of two lies between the two.
    have hlog : q.log2 - 52 < q'.log2 - 52 := (Nat.pow_lt_pow_iff_right (by decide)).mp hlt
    have hpos : q' ≠ 0 := by
      rintro rfl
      simp at hlog
    have hlow : q < 2 ^ q'.log2 := by
      calc
        q < 2 ^ (q.log2 + 1) := Nat.lt_log2_self
        _ ≤ 2 ^ q'.log2 := Nat.pow_le_pow_right (by decide) (by omega)
    have hhigh : 2 ^ q'.log2 ≤ q' := Nat.log2_self_le hpos
    calc
      nearestUnits num den ≤ 2 ^ q'.log2 := by
        apply nearestUnits_le_of_dvd hden
        · rw [hq]
          exact Nat.pow_dvd_pow 2 (by omega)
        · exact ((Nat.div_lt_iff_lt_mul hden).mp (hq ▸ hlow)).le
      _ ≤ nearestUnits num' den := by
        apply le_nearestUnits_of_dvd hden
        · rw [hq']
          exact Nat.pow_dvd_pow 2 (by omega)
        · exact (Nat.le_div_iff_mul_le hden).mp (hq' ▸ hhigh)

theorem nearestUnits_mono {num den num' den' : Nat} (hden : 0 < den) (hden' : 0 < den')
    (h : num * den' ≤ num' * den) : nearestUnits num den ≤ nearestUnits num' den' := by
  calc
    nearestUnits num den = nearestUnits (den' * num) (den' * den) :=
      (nearestUnits_mul_mul hden' num den).symm
    _ ≤ nearestUnits (den * num') (den' * den) := by
      apply nearestUnits_mono_left (Nat.mul_pos hden' hden)
      rwa [Nat.mul_comm den', Nat.mul_comm den]
    _ = nearestUnits (den * num') (den * den') := by rw [Nat.mul_comm den' den]
    _ = nearestUnits num' den' := nearestUnits_mul_mul hden num' den'

/-! ### Decimals -/

theorem decimalUnits_mono {s s' : Nat} {e e' : Int} (h : (s : ℚ) * 10 ^ e ≤ s' * 10 ^ e') :
    decimalUnits s e ≤ decimalUnits s' e' := by
  have hpow (n : Nat) : 0 < 10 ^ n := Nat.pow_pos (by decide)
  have hpow' (n : Nat) : (0 : ℚ) < ((10 ^ n : Nat) : ℚ) := by exact_mod_cast hpow n
  rw [decimal_value, decimal_value, div_le_div_iff₀ (hpow' _) (hpow' _)] at h
  have hnat : s * 10 ^ e.toNat * 10 ^ (-e').toNat ≤ s' * 10 ^ e'.toNat * 10 ^ (-e).toNat := by
    exact_mod_cast h
  rw [decimalUnits_eq, decimalUnits_eq]
  apply nearestUnits_mono (hpow _) (hpow _)
  rw [Nat.mul_right_comm _ one, Nat.mul_right_comm _ one]
  exact Nat.mul_le_mul_right one hnat

variable {units s : Nat} {e : Int}

/-- A decimal up to a double is read as no more than the double. -/
theorem decimalUnits_le (hrep : Representable units) (h : (s : ℚ) * 10 ^ e ≤ (units : ℚ) / one) :
    decimalUnits s e ≤ units := by
  calc
    decimalUnits s e ≤ decimalUnits (units * Nat.pow 5 1074) (-1074) :=
      decimalUnits_mono (by rwa [exact_value])
    _ = units := decimalUnits_exact hrep

/-- A decimal from a double on is read as no less than the double. -/
theorem le_decimalUnits (hrep : Representable units) (h : (units : ℚ) / one ≤ s * 10 ^ e) :
    units ≤ decimalUnits s e := by
  calc
    units = decimalUnits (units * Nat.pow 5 1074) (-1074) := (decimalUnits_exact hrep).symm
    _ ≤ decimalUnits s e := decimalUnits_mono (by rwa [exact_value])

/-- What lies between a double and a decimal that is read as it is read as it too. -/
theorem decimalUnits_between {s' : Nat} {e' : Int} (hrep : Representable units)
    (hread : decimalUnits s' e' = units)
    (h : (units : ℚ) / one ≤ s * 10 ^ e ∧ (s : ℚ) * 10 ^ e ≤ s' * 10 ^ e' ∨
      (s' : ℚ) * 10 ^ e' ≤ s * 10 ^ e ∧ (s : ℚ) * 10 ^ e ≤ (units : ℚ) / one) :
    decimalUnits s e = units := by
  rcases h with ⟨hlow, hhigh⟩ | ⟨hlow, hhigh⟩
  · exact ((decimalUnits_mono hhigh).trans_eq hread).antisymm (le_decimalUnits hrep hlow)
  · exact (decimalUnits_le hrep hhigh).antisymm (hread.symm.trans_le (decimalUnits_mono hlow))

end SnippetBridge.Binary64
