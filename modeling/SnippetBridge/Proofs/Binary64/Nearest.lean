import Mathlib.Data.Nat.Dist
import SnippetBridge.Proofs.Binary64.Integer
import SnippetBridge.Proofs.Binary64.Monotone

/-!
Rounding finds the nearest double. The doubles that could be without a largest one form a grid; an
integer is rounded to the point of the grid that is nearest to it, of two equally near ones to the
even one, and what is too large for a double becomes infinite afterwards.
-/

namespace SnippetBridge.Binary64

/-- A point of the grid of the doubles, continued beyond the largest one, that is nearest to a
target. Of two such points it is the even one. -/
structure NearestPoint (target units : Nat) : Prop where
  onGrid : spacing units ∣ units
  nearest : ∀ point, spacing point ∣ point → units.dist target ≤ point.dist target
  even : ∀ point, spacing point ∣ point → point ≠ units →
    point.dist target = units.dist target → 2 * spacing units ∣ units

/-- The double nearest to an integer. -/
def IsNearest (n : Nat) (x : Binary64) : Prop :=
  ∃ units, NearestPoint (n * one) units ∧
    x = if h : Representable units then .finite false units h else .infinite false

/-! ### Neighbours on the grid -/

/-- The point of the grid at or below a number has the same neighbourhood as the number. -/
theorem spacing_floor (n : Nat) : spacing (n / spacing n * spacing n) = spacing n := by
  rcases Nat.lt_or_ge n.log2 53 with hsmall | hlarge
  · have hone : spacing n = 1 := by
      rw [spacing, show n.log2 - 52 = 0 by omega]
    rw [hone, Nat.div_one, Nat.mul_one, hone]
  · have hpos : n ≠ 0 := by
      rintro rfl
      simp at hlarge
    -- The power of two below the number is a point of the grid itself.
    have hpower : 2 ^ n.log2 = 2 ^ 52 * spacing n := by
      change 2 ^ n.log2 = 2 ^ 52 * 2 ^ (n.log2 - 52)
      rw [← Nat.pow_add]
      congr 1
      omega
    have hbits : 2 ^ 52 ≤ n / spacing n := by
      rw [Nat.le_div_iff_mul_le (spacing_pos n), ← hpower]
      exact Nat.log2_self_le hpos
    have hlow : 2 ^ n.log2 ≤ n / spacing n * spacing n := by
      rw [hpower]
      exact Nat.mul_le_mul_right _ hbits
    have hlog : (n / spacing n * spacing n).log2 = n.log2 := by
      apply Nat.le_antisymm
      · rw [Nat.log2_eq_log_two, Nat.log2_eq_log_two]
        exact Nat.log_mono_right (Nat.div_mul_le_self n (spacing n))
      · exact (Nat.le_log2 (Nat.ne_of_gt (hlow.trans_lt' (Nat.two_pow_pos _)))).mpr hlow
    rw [spacing, hlog, ← spacing]

/-- There is no point of the grid between two neighbours. -/
theorem le_floor_or_le {n point : Nat} (hpoint : spacing point ∣ point) :
    point ≤ n / spacing n * spacing n ∨ (n / spacing n + 1) * spacing n ≤ point := by
  rcases Nat.lt_or_ge (n / spacing n * spacing n) point with hlow | hlow
  · right
    have hgap : spacing n ∣ point := by
      calc
        spacing n = spacing (n / spacing n * spacing n) := (spacing_floor n).symm
        _ ∣ spacing point := spacing_dvd_spacing hlow.le
        _ ∣ point := hpoint
    obtain ⟨k, rfl⟩ := hgap
    rw [Nat.mul_comm (spacing n) k] at hlow ⊢
    exact Nat.mul_le_mul_right _ (Nat.lt_of_mul_lt_mul_right hlow)
  · exact .inl hlow

/-- A point whose number on the grid is even has a double step to each side. -/
theorem two_mul_spacing_dvd {k : Nat} (hk : k ≤ 2 ^ 53) (heven : 2 ∣ k) (e : Nat) :
    2 * spacing (k * 2 ^ e) ∣ k * 2 ^ e := by
  obtain ⟨j, rfl⟩ := heven
  have hhalf : spacing (2 * j * 2 ^ e) ∣ j * 2 ^ e := by
    rcases (show j ≤ 2 ^ 52 by omega).lt_or_eq with hlt | rfl
    · rcases Nat.eq_zero_or_pos j with rfl | hpos
      · simp
      have hunits : 2 * j * 2 ^ e ≠ 0 := (Nat.mul_pos (by omega) (Nat.two_pow_pos e)).ne'
      have hlog : (2 * j * 2 ^ e).log2 < 53 + e := by
        rw [Nat.log2_lt hunits, Nat.pow_add]
        exact Nat.mul_lt_mul_of_pos_right (by omega) (Nat.two_pow_pos e)
      exact (Nat.pow_dvd_pow 2 (by omega)).trans (Nat.dvd_mul_left (2 ^ e) j)
    · rw [← Nat.pow_succ', ← Nat.pow_add, ← Nat.pow_add, spacing, Nat.log2_two_pow]
      exact Nat.pow_dvd_pow 2 (by omega)
  calc
    2 * spacing (2 * j * 2 ^ e) ∣ 2 * (j * 2 ^ e) := Nat.mul_dvd_mul_left 2 hhalf
    _ = 2 * j * 2 ^ e := (Nat.mul_assoc 2 j (2 ^ e)).symm

/-! ### Rounding -/

/-- A quotient is rounded to the nearer of two integers, and from the middle to the even one. -/
theorem roundHalfEven_cases (num den : Nat) :
    (roundHalfEven num den = num / den ∧ 2 * (num % den) ≤ den ∨
        roundHalfEven num den = num / den + 1 ∧ den ≤ 2 * (num % den)) ∧
      (2 * (num % den) = den → 2 ∣ roundHalfEven num den) := by
  simp only [roundHalfEven]
  split_ifs <;> omega

theorem nearestPoint_nearestUnits (n : Nat) : NearestPoint n (nearestUnits n 1) := by
  let gap := spacing n
  have hunits : nearestUnits n 1 = roundHalfEven n gap * gap := by
    simp only [nearestUnits, Nat.div_one, Nat.one_mul, gap]
  obtain ⟨hround, hmiddle⟩ := roundHalfEven_cases n gap
  have hsplit : n / gap * gap + n % gap = n := Nat.div_add_mod' n gap
  have hmod : n % gap < gap := Nat.mod_lt n (spacing_pos n)
  have hnext : (n / gap + 1) * gap = n / gap * gap + gap := Nat.succ_mul ..
  constructor
  · exact spacing_dvd_nearestUnits n 1
  · intro point hpoint
    have hsides : point ≤ n / gap * gap ∨ (n / gap + 1) * gap ≤ point := le_floor_or_le hpoint
    rw [hunits, Nat.dist, Nat.dist]
    rcases hround with ⟨hk, hr⟩ | ⟨hk, hr⟩ <;> rw [hk] <;> omega
  · intro point hpoint hne hdist
    have hsides : point ≤ n / gap * gap ∨ (n / gap + 1) * gap ≤ point := le_floor_or_le hpoint
    -- Two points are equally near only if the target is in the middle between two neighbours.
    have hhalf : 2 * (n % gap) = gap := by
      rw [hunits] at hne hdist
      rw [Nat.dist, Nat.dist] at hdist
      rcases hround with ⟨hk, hr⟩ | ⟨hk, hr⟩ <;> rw [hk] at hne hdist <;> omega
    have hbits : roundHalfEven n gap ≤ 2 ^ 53 :=
      (roundHalfEven_le n gap).trans (Nat.div_lt_of_lt_mul (lt_spacing_mul n))
    rw [hunits]
    exact two_mul_spacing_dvd hbits (hmiddle hhalf) (n.log2 - 52)

/-- Two points on either side cannot both be even. -/
theorem NearestPoint.not_lt {n a b : Nat} (ha : NearestPoint n a) (hb : NearestPoint n b) :
    ¬a < b := by
  intro hlt
  let gap := spacing n
  have hsplit : n / gap * gap + n % gap = n := Nat.div_add_mod' n gap
  have hmod : n % gap < gap := Nat.mod_lt n (spacing_pos n)
  have hnext : (n / gap + 1) * gap = n / gap * gap + gap := Nat.succ_mul ..
  have hlow : spacing (n / gap * gap) = gap := spacing_floor n
  have hbits : n / spacing n < 2 ^ 53 := Nat.div_lt_of_lt_mul (lt_spacing_mul n)
  have hhigh : spacing ((n / gap + 1) * gap) ∣ (n / gap + 1) * gap :=
    spacing_dvd_mul_pow (Nat.succ_le_of_lt hbits) (n.log2 - 52)
  have hdist : a.dist n = b.dist n := (ha.nearest b hb.onGrid).antisymm (hb.nearest a ha.onGrid)
  -- They are the two neighbours of the target.
  have hneighbours : a = n / gap * gap ∧ b = (n / gap + 1) * gap := by
    have hsidesA : a ≤ n / gap * gap ∨ (n / gap + 1) * gap ≤ a := le_floor_or_le ha.onGrid
    have hsidesB : b ≤ n / gap * gap ∨ (n / gap + 1) * gap ≤ b := le_floor_or_le hb.onGrid
    have hfloor : spacing (n / gap * gap) ∣ n / gap * gap := by
      rw [hlow]
      exact Nat.dvd_mul_left gap _
    have hnearA := ha.nearest _ hfloor
    have hnearB := hb.nearest _ hhigh
    rw [Nat.dist, Nat.dist] at hdist hnearA hnearB
    omega
  obtain ⟨rfl, rfl⟩ := hneighbours
  have hevenLow : 2 * gap ∣ n / gap * gap := by
    have heven := ha.even _ hb.onGrid hlt.ne' hdist.symm
    rwa [hlow] at heven
  have hevenHigh : 2 * gap ∣ (n / gap + 1) * gap := by
    have hstep : gap ∣ spacing ((n / gap + 1) * gap) := by
      calc
        gap = spacing (n / gap * gap) := hlow.symm
        _ ∣ spacing ((n / gap + 1) * gap) := spacing_dvd_spacing hlt.le
    exact (Nat.mul_dvd_mul_left 2 hstep).trans (hb.even _ ha.onGrid hlt.ne hdist)
  have hfirst := Nat.dvd_of_mul_dvd_mul_right (spacing_pos n) hevenLow
  have hsecond := Nat.dvd_of_mul_dvd_mul_right (spacing_pos n) hevenHigh
  omega

theorem NearestPoint.unique {n a b : Nat} (ha : NearestPoint n a) (hb : NearestPoint n b) :
    a = b :=
  (Nat.not_lt.mp (hb.not_lt ha)).antisymm (Nat.not_lt.mp (ha.not_lt hb))

theorem ofNat_eq (n : Nat) :
    ofNat n =
      if h : Representable (nearestUnits (n * one) 1) then
        .finite false (nearestUnits (n * one) 1) h
      else .infinite false := by
  simp only [ofNat, ofRatio]

/-- The double that an integer is rounded to is the nearest one. -/
theorem isNearest_iff {n : Nat} {x : Binary64} : IsNearest n x ↔ x = ofNat n := by
  have hpoint := nearestPoint_nearestUnits (n * one)
  rw [IsNearest]
  constructor
  · rintro ⟨units, hunits, hx⟩
    have hsame := hunits.unique hpoint
    rw [hsame] at hx
    rw [hx, ofNat_eq]
  · intro hx
    rw [hx]
    exact ⟨nearestUnits (n * one) 1, hpoint, ofNat_eq n⟩

end SnippetBridge.Binary64
