import SnippetBridge.TypeScript.Numeral
import SnippetBridge.Proofs.Binary64.Least
import SnippetBridge.Proofs.Binary64.Text

/-!
Numbers as names of properties. ECMAScript names a number by the digits of a decimal that is read as
it and has the fewest digits, in positional form from `10 ^ -6` up to below `10 ^ 21` and with an
exponent outside. A numeric key has no exponent form, and an integer keeps all its digits; so it is
the name just between the two bounds, and there only where the exact digits of an integer are the
fewest that are read as it. The integers below `2 ^ 53` are such.
-/

namespace SnippetBridge

namespace Decimal

/-! ### Names -/

/-- The place of the point, counted from the first digit. -/
def point (d : Decimal) : Int := d.exponent + d.digits.length

/-- Digits with the point at a place, filled up with zeros on either side. -/
def positional (ds : List Char) (point : Int) : List Char :=
  if ds.length ≤ point then ds ++ List.replicate (point - ds.length).toNat '0'
  else if 0 < point then ds.take point.toNat ++ '.' :: ds.drop point.toNat
  else '0' :: '.' :: (List.replicate (-point).toNat '0' ++ ds)

/-- Digits with the point after the first of them, and the exponent that this leaves. -/
def scientific (ds : List Char) (point : Int) : List Char :=
  ds.take 1 ++ DecimalForm.pointed (ds.drop 1) ++
    'e' :: (if point < 1 then '-' else '+') :: Nat.toDigits 10 (point - 1).natAbs

/-- The text of a decimal as ECMAScript writes numbers. -/
def name (d : Decimal) : List Char :=
  if -5 ≤ d.point ∧ d.point ≤ 21 then positional d.digits d.point else scientific d.digits d.point

example : name ⟨1, 21⟩ = ['1', 'e', '+', '2', '1'] := by decide

example : name ⟨15, -8⟩ = ['1', '.', '5', 'e', '-', '7'] := by decide

/-- A text that ECMAScript's conversion of numbers to strings allows for a magnitude. -/
inductive IsName : Nat → List Char → Prop
  | zero : IsName 0 ['0']
  | positive {units : Nat} {d : Decimal} : 0 < units → d.Shortest units → IsName units d.name

theorem isName_iff {units : Nat} (hpos : 0 < units) (text : List Char) :
    IsName units text ↔ ∃ d : Decimal, d.Shortest units ∧ text = d.name := by
  constructor
  · intro h
    cases h with
    | zero => exact absurd hpos (Nat.lt_irrefl 0)
    | positive _ hd => exact ⟨_, hd, rfl⟩
  · rintro ⟨d, hd, rfl⟩
    exact .positive hpos hd

/-- The positional form of the standard is the plain form. -/
theorem positional_eq_plain (d : Decimal) : positional d.digits d.point = d.plain := by
  obtain ⟨significand, exponent⟩ := d
  simp only [point, digits]
  generalize hds : Nat.toDigits 10 significand = ds
  cases exponent with
  | ofNat e =>
      simp [positional, plain, digits, hds]
  | negSucc e =>
      have hlength : ¬(ds.length : Int) ≤ Int.negSucc e + ds.length := by omega
      rw [positional, if_neg hlength, plain]
      simp only [digits, hds]
      split
      · rename_i hinside
        have hpad : e + 2 - ds.length = 0 := by omega
        have htake : (Int.negSucc e + (ds.length : Int)).toNat = ds.length - (e + 1) := by omega
        simp only [hpad, htake, List.replicate_zero, List.nil_append]
      · rename_i hfront
        have hpad : e + 2 - ds.length = (e + 1 - ds.length) + 1 := by omega
        have hzeros : (-(Int.negSucc e + (ds.length : Int))).toNat = e + 1 - ds.length := by omega
        have htake :
            ('0' :: (List.replicate (e + 1 - ds.length) '0' ++ ds)).length - (e + 1) = 1 := by
          simp only [List.length_cons, List.length_append, List.length_replicate]
          omega
        simp only [hpad, hzeros, List.replicate_succ, List.cons_append, htake]
        rfl

theorem name_of_point {d : Decimal} (h : -5 ≤ d.point ∧ d.point ≤ 21) : d.name = d.plain := by
  rw [name, if_pos h, positional_eq_plain]

theorem e_mem_name {d : Decimal} (h : ¬(-5 ≤ d.point ∧ d.point ≤ 21)) : 'e' ∈ d.name := by
  rw [name, if_neg h, scientific]
  simp

/-! ### Where names have an exponent -/

theorem significand_ne_zero {d : Decimal} {units : Nat} (hpos : 0 < units)
    (hread : Binary64.decimalUnits d.significand d.exponent = units) : d.significand ≠ 0 := by
  intro hzero
  rw [hzero, Binary64.decimalUnits_zero] at hread
  exact hpos.ne hread

/-- The point of a shortest decimal tells on which side of a power of ten the double is, also where
the decimal is rounded. -/
theorem point_le_iff {d : Decimal} {units : Nat} {t : Int} (hpos : 0 < units)
    (hd : d.Shortest units)
    (hstep : Binary64.decimalUnits 9 (t - 1) < Binary64.decimalUnits 1 t) :
    d.point ≤ t ↔ units < Binary64.decimalUnits 1 t := by
  constructor
  · intro hpoint
    have hle : units ≤ Binary64.decimalUnits 1 t := by
      rw [← hd.reads]
      apply Binary64.decimalUnits_mono
      calc
        (d.significand : ℚ) * 10 ^ d.exponent ≤ 10 ^ d.point := (value_lt d).le
        _ ≤ 10 ^ t := zpow_le_zpow_right₀ (by norm_num) hpoint
        _ = ((1 : Nat) : ℚ) * 10 ^ t := by simp
    refine hle.lt_of_ne fun heq => ?_
    -- The power of ten itself has a single digit, and no other digit comes up to it.
    have hsingle : digits ⟨1, t⟩ = ['1'] := Nat.toDigits_of_lt_base (show 1 < 10 by decide)
    have hlength : d.digits.length ≤ 1 := by
      have hleast := hd.least ⟨1, t⟩ heq.symm
      rwa [hsingle] at hleast
    have hdigit : d.significand ≤ 9 := by
      have hlt := (Nat.length_toDigits_le_iff (by decide) Nat.one_pos).mp hlength
      omega
    have hexponent : d.exponent ≤ t - 1 := by
      have hone : 0 < d.digits.length := Nat.length_toDigits_pos
      simp only [point] at hpoint
      omega
    have hless : units ≤ Binary64.decimalUnits 9 (t - 1) := by
      rw [← hd.reads]
      apply Binary64.decimalUnits_mono
      exact mul_le_mul (by exact_mod_cast hdigit) (zpow_le_zpow_right₀ (by norm_num) hexponent)
        (by positivity) (by positivity)
    omega
  · intro hlt
    by_contra hpoint
    have hle : Binary64.decimalUnits 1 t ≤ units := by
      rw [← hd.reads]
      apply Binary64.decimalUnits_mono
      calc
        ((1 : Nat) : ℚ) * 10 ^ t = 10 ^ t := by simp
        _ ≤ 10 ^ (d.point - 1) := zpow_le_zpow_right₀ (by norm_num) (by omega)
        _ ≤ d.significand * 10 ^ d.exponent := le_value (significand_ne_zero hpos hd.reads)
    omega

/-- The name of a double is positional from `10 ^ -6` up to below `10 ^ 21`. -/
theorem point_bounds_iff {d : Decimal} {units : Nat} (hpos : 0 < units) (hd : d.Shortest units) :
    -5 ≤ d.point ∧ d.point ≤ 21 ↔
      Binary64.decimalUnits 1 (-6) ≤ units ∧ units < Binary64.decimalUnits 1 21 := by
  have hlow := point_le_iff (t := -6) hpos hd (by decide +kernel)
  have hhigh := point_le_iff (t := 21) hpos hd (by decide +kernel)
  rw [← hhigh, ← Nat.not_lt, ← hlow]
  omega

/-! ### Names of integers -/

theorem toDigits_mul_pow {n : Nat} (hpos : 0 < n) (e : Nat) :
    Nat.toDigits 10 (n * 10 ^ e) = Nat.toDigits 10 n ++ List.replicate e '0' := by
  induction e with
  | zero => simp
  | succ e ih =>
      have hpos' : 0 < n * 10 ^ e := Nat.mul_pos hpos (Nat.pow_pos (by decide))
      have hstep : Nat.toDigits 10 (n * 10 ^ e) ++ Nat.toDigits 10 0 =
          Nat.toDigits 10 (10 * (n * 10 ^ e) + 0) :=
        Nat.toDigits_append_toDigits (by decide) hpos' (by decide)
      rw [List.replicate_succ', ← List.append_assoc, ← ih, Nat.pow_succ, ← Nat.mul_assoc,
        Nat.mul_comm _ 10]
      exact hstep.symm

/-- A shortest decimal of an integer value has no place after the point. -/
theorem exponent_nonneg {d : Decimal} {units n : Nat} (hpos : 0 < n) (hd : d.Shortest units)
    (hvalue : (d.significand : ℚ) * 10 ^ d.exponent = n) : 0 ≤ d.exponent := by
  by_contra hneg
  obtain ⟨e, he⟩ := Int.eq_negSucc_of_lt_zero (Int.not_le.mp hneg)
  have hsignificand : d.significand = n * 10 ^ (e + 1) := by
    rw [he, zpow_negSucc, ← div_eq_mul_inv, div_eq_iff (by positivity)] at hvalue
    exact_mod_cast hvalue
  have hread : Binary64.decimalUnits n 0 = units := by
    rw [← hd.reads]
    apply Binary64.decimalUnits_congr
    rw [hvalue]
    simp
  have hlength : d.digits.length = (Nat.toDigits 10 n).length + (e + 1) := by
    rw [digits, hsignificand, toDigits_mul_pow hpos, List.length_append, List.length_replicate]
  have hleast : d.digits.length ≤ (Nat.toDigits 10 n).length := hd.least ⟨n, 0⟩ hread
  omega

/-- The plain form of a shortest decimal is the digits of an integer exactly if it is of the value
of the integer. -/
theorem plain_eq_toDigits_iff {d : Decimal} {units n : Nat} (hpos : 0 < n) (hd : d.Shortest units) :
    Nat.toDigits 10 n = d.plain ↔ (d.significand : ℚ) * 10 ^ d.exponent = n := by
  constructor
  · intro h
    obtain ⟨significand, exponent⟩ := d
    cases exponent with
    | ofNat e =>
        have hvalue := congrArg (Nat.ofDigitChars 10 · 0) h
        simp only [plain, digits, Nat.ofDigitChars_append, Nat.ofDigitChars_ten_toDigits] at hvalue
        simp [hvalue, mul_comm]
    | negSucc e =>
        have hdot : '.' ∈ Nat.toDigits 10 n := by
          rw [h, plain]
          simp
        simpa using Nat.isDigit_of_mem_toDigits (by decide) (by decide) hdot
  · intro hvalue
    obtain ⟨e, he⟩ := Int.eq_ofNat_of_zero_le (exponent_nonneg hpos hd hvalue)
    obtain ⟨significand, exponent⟩ := d
    obtain rfl : exponent = e := he
    have hnat : significand * 10 ^ e = n := by
      rw [zpow_natCast] at hvalue
      exact_mod_cast hvalue
    have hsignificand : 0 < significand := Nat.pos_of_ne_zero (by rintro rfl; omega)
    rw [← hnat, toDigits_mul_pow hsignificand]
    rfl

end Decimal

namespace TypeScript.Numeral

open Binary64 (Representable decimalUnits magnitudeText one value_of_integer)
open Decimal (IsName)

variable {units : Nat}

theorem toList_key_of_integer (hrep : Representable units)
    (h : units % one = 0 ∧ units < 1000000000000000000000 * one) :
    (key (.finite false units hrep)).toList = Nat.toDigits 10 (units / one) := by
  simp only [key, if_pos h, Bool.false_eq_true, if_false, String.toList_ofList]

theorem toList_key_of_not_integer (hrep : Representable units)
    (h : ¬(units % one = 0 ∧ units < 1000000000000000000000 * one)) :
    (key (.finite false units hrep)).toList = magnitudeText units := by
  simp only [key, if_neg h, Binary64.toList_plain, Bool.false_eq_true, if_false]

/-- A key has no exponent. -/
theorem e_not_mem_key (hrep : Representable units) :
    'e' ∉ (key (.finite false units hrep)).toList := by
  intro hmem
  by_cases h : units % one = 0 ∧ units < 1000000000000000000000 * one
  · rw [toList_key_of_integer hrep h] at hmem
    simpa using Nat.isDigit_of_mem_toDigits (by decide) (by decide) hmem
  · rw [toList_key_of_not_integer hrep h] at hmem
    obtain ⟨c, cs, htext, hc, hcs⟩ := Binary64.magnitudeText_eq_cons units
    rw [htext] at hmem
    rcases List.mem_cons.mp hmem with rfl | hmem
    · simp at hc
    · simpa using hcs 'e' hmem

theorem exists_eq_mul_one (hinteger : units % one = 0) : ∃ n, units = n * one :=
  ⟨units / one, (Nat.div_mul_cancel (Nat.dvd_of_mod_eq_zero hinteger)).symm⟩

theorem huge_eq : decimalUnits 1 21 = 1000000000000000000000 * one := by decide +kernel

/-- Outside of the bounds a key is no name. -/
theorem bounds_of_isName (hrep : Representable units) (hpos : 0 < units)
    (h : IsName units (key (.finite false units hrep)).toList) :
    decimalUnits 1 (-6) ≤ units ∧ units < decimalUnits 1 21 := by
  obtain ⟨d, hd, htext⟩ := (Decimal.isName_iff hpos _).mp h
  rw [← Decimal.point_bounds_iff hpos hd]
  by_contra hbounds
  exact e_not_mem_key hrep (htext ▸ Decimal.e_mem_name hbounds)

/-- Within the bounds the key of an integer is a name if its exact digits are. -/
theorem isName_key_integer_iff (hrep : Representable units) (hpos : 0 < units)
    (hbounds : decimalUnits 1 (-6) ≤ units ∧ units < decimalUnits 1 21)
    (hinteger : units % one = 0) :
    IsName units (key (.finite false units hrep)).toList ↔
      ∃ d : Decimal, d.Shortest units ∧ (d.significand : ℚ) * 10 ^ d.exponent = units / one := by
  have hkey := toList_key_of_integer hrep ⟨hinteger, huge_eq ▸ hbounds.2⟩
  obtain ⟨n, hn⟩ := exists_eq_mul_one hinteger
  have hnpos : 0 < n := Nat.pos_of_ne_zero (by rintro rfl; omega)
  have hquotient : units / one = n := by rw [hn, Nat.mul_div_cancel n Binary64.one_pos]
  rw [Decimal.isName_iff hpos, hkey, hquotient, value_of_integer hn]
  refine exists_congr fun d => and_congr_right fun hd => ?_
  rw [Decimal.name_of_point ((Decimal.point_bounds_iff hpos hd).mpr hbounds)]
  exact Decimal.plain_eq_toDigits_iff hnpos hd

/-- Within the bounds the key of a number with a fraction is a name. -/
theorem isName_key_of_fraction (hrep : Representable units) (hpos : 0 < units)
    (hbounds : decimalUnits 1 (-6) ≤ units ∧ units < decimalUnits 1 21)
    (hfraction : units % one ≠ 0) : IsName units (key (.finite false units hrep)).toList := by
  have hd := Binary64.shortest_isShortest hrep hpos .up
  rw [toList_key_of_not_integer hrep (fun h => hfraction h.1), magnitudeText, if_neg hpos.ne',
    ← Decimal.name_of_point ((Decimal.point_bounds_iff hpos hd).mpr hbounds)]
  exact .positive hpos hd

/-- The exact digits of an integer below `2 ^ 53` are the shortest. -/
theorem exists_shortest_of_small (hpos : 0 < units) (hinteger : units % one = 0)
    (hsmall : units < 2 ^ 53 * one) :
    ∃ d : Decimal, d.Shortest units ∧ (d.significand : ℚ) * 10 ^ d.exponent = units / one := by
  obtain ⟨n, hn⟩ := exists_eq_mul_one hinteger
  rw [value_of_integer hn]
  have hnpos : 0 < n := Nat.pos_of_ne_zero (by rintro rfl; omega)
  have hnsmall : n < 2 ^ 53 := Nat.lt_of_mul_lt_mul_right (hn ▸ hsmall)
  have hrep : Representable units := hn ▸ Binary64.representable_mul_one hnsmall
  refine ⟨Binary64.shortest .up units, Binary64.shortest_isShortest hrep hpos .up, ?_⟩
  rw [hn]
  exact Binary64.value_shortest_of_integer hnpos hnsmall .up

theorem isName_key_zero (hrep : Representable 0) :
    IsName 0 (key (.finite false 0 hrep)).toList := by
  have hkey := toList_key_of_integer hrep ⟨Nat.zero_mod one, by decide +kernel⟩
  rw [hkey, Nat.zero_div]
  exact .zero

theorem isName_key_positive_iff (hrep : Representable units) (hpos : 0 < units) :
    IsName units (key (.finite false units hrep)).toList ↔
      decimalUnits 1 (-6) ≤ units ∧ units < decimalUnits 1 21 ∧
        (units % one = 0 → ∃ d : Decimal, d.Shortest units ∧
          (d.significand : ℚ) * 10 ^ d.exponent = units / one) := by
  constructor
  · intro h
    obtain ⟨hlow, hhigh⟩ := bounds_of_isName hrep hpos h
    exact ⟨hlow, hhigh, fun hinteger =>
      (isName_key_integer_iff hrep hpos ⟨hlow, hhigh⟩ hinteger).mp h⟩
  · rintro ⟨hlow, hhigh, hexact⟩
    by_cases hinteger : units % one = 0
    · exact (isName_key_integer_iff hrep hpos ⟨hlow, hhigh⟩ hinteger).mpr (hexact hinteger)
    · exact isName_key_of_fraction hrep hpos ⟨hlow, hhigh⟩ hinteger

theorem isName_key_of_small (hrep : Representable units) (hlow : decimalUnits 1 (-6) ≤ units)
    (hsmall : units < 2 ^ 53 * one) : IsName units (key (.finite false units hrep)).toList := by
  have hpos : 0 < units := hlow.trans_lt' (by decide +kernel)
  have hhigh : 2 ^ 53 * one < decimalUnits 1 21 := by decide +kernel
  exact (isName_key_positive_iff hrep hpos).mpr
    ⟨hlow, hsmall.trans hhigh, fun hinteger => exists_shortest_of_small hpos hinteger hsmall⟩

/-- A numeric key is the name of its number exactly from `10 ^ -6` up to below `10 ^ 21`, where the
exact digits of an integer have to be the shortest, as they are below `2 ^ 53`. -/
theorem isName_key_iff (hrep : Representable units) :
    (IsName units (key (.finite false units hrep)).toList ↔
      units = 0 ∨ decimalUnits 1 (-6) ≤ units ∧ units < decimalUnits 1 21 ∧
        (units % one = 0 → ∃ d : Decimal, d.Shortest units ∧
          (d.significand : ℚ) * 10 ^ d.exponent = units / one)) ∧
    (decimalUnits 1 (-6) ≤ units → units < 2 ^ 53 * one →
      IsName units (key (.finite false units hrep)).toList) := by
  refine ⟨?_, isName_key_of_small hrep⟩
  rcases Nat.eq_zero_or_pos units with rfl | hpos
  · exact ⟨fun _ => .inl rfl, fun _ => isName_key_zero hrep⟩
  · rw [isName_key_positive_iff hrep hpos]
    exact ⟨.inr, fun h => h.resolve_left hpos.ne'⟩

/-- One half, whose shortest decimal has to be searched for. -/
theorem isName_key_half :
    ∃ hrep : Representable (2 ^ 1073),
      decimalUnits 1 (-6) ≤ 2 ^ 1073 ∧ 2 ^ 1073 < 2 ^ 53 * one ∧
        IsName (2 ^ 1073) (key (.finite false (2 ^ 1073) hrep)).toList := by
  have hrep : Representable (2 ^ 1073) := by decide +kernel
  have hlow : decimalUnits 1 (-6) ≤ 2 ^ 1073 := by decide +kernel
  have hsmall : 2 ^ 1073 < 2 ^ 53 * one := by decide +kernel
  exact ⟨hrep, hlow, hsmall, (isName_key_iff hrep).2 hlow hsmall⟩

theorem isName_of_shortest {text : List Char} (hrep : Representable units) (hpos : 0 < units)
    (htext : (Binary64.shortest .up units).name = text) : IsName units text := by
  rw [← htext]
  exact .positive hpos (Binary64.shortest_isShortest hrep hpos .up)

/-- From `2 ^ 53` on the shortest decimal of an integer may be rounded. -/
theorem value_ne_of_shortest {d : Decimal} (hd : d.Shortest (2 ^ 60 * one)) :
    (d.significand : ℚ) * 10 ^ d.exponent ≠ (2 ^ 60 : Nat) := by
  intro hvalue
  have hlength := hd.least ⟨1152921504606847, 3⟩ (by decide +kernel)
  have hfew : d.significand < 10 ^ 16 :=
    (Nat.length_toDigits_le_iff (by decide) (by decide)).mp (hlength.trans (by decide +kernel))
  obtain ⟨e, he⟩ := Int.eq_ofNat_of_zero_le (Decimal.exponent_nonneg (by decide) hd hvalue)
  rw [he, zpow_natCast] at hvalue
  have hnat : d.significand * 10 ^ e = 2 ^ 60 := by exact_mod_cast hvalue
  -- No power of two ends with a zero.
  cases e with
  | zero => omega
  | succ e =>
      rw [Nat.pow_succ, ← Nat.mul_assoc] at hnat
      omega

/-- The keys of `10 ^ 21`, `10 ^ -7` and `2 ^ 60` are not their names. -/
theorem not_isName_key :
    (∃ hrep, IsName (decimalUnits 1 21) ['1', 'e', '+', '2', '1'] ∧
      ¬IsName (decimalUnits 1 21) (key (.finite false (decimalUnits 1 21) hrep)).toList) ∧
    (∃ hrep, IsName (decimalUnits 1 (-7)) ['1', 'e', '-', '7'] ∧
      ¬IsName (decimalUnits 1 (-7)) (key (.finite false (decimalUnits 1 (-7)) hrep)).toList) ∧
    ∃ hrep, IsName (2 ^ 60 * one) "1152921504606847000".toList ∧
      ¬IsName (2 ^ 60 * one) (key (.finite false (2 ^ 60 * one) hrep)).toList := by
  have hhuge : Representable (decimalUnits 1 21) ∧ 0 < decimalUnits 1 21 := by decide +kernel
  have htiny : Representable (decimalUnits 1 (-7)) ∧ 0 < decimalUnits 1 (-7) := by decide +kernel
  have hlong : Representable (2 ^ 60 * one) ∧ 0 < 2 ^ 60 * one := by decide +kernel
  refine ⟨⟨hhuge.1, isName_of_shortest hhuge.1 hhuge.2 (by decide +kernel), fun h => ?_⟩,
    ⟨htiny.1, isName_of_shortest htiny.1 htiny.2 (by decide +kernel), fun h => ?_⟩,
    ⟨hlong.1, isName_of_shortest hlong.1 hlong.2 (by decide +kernel), fun h => ?_⟩⟩
  · exact absurd (bounds_of_isName hhuge.1 hhuge.2 h).2 (Nat.lt_irrefl _)
  · exact absurd (bounds_of_isName htiny.1 htiny.2 h).1 (by decide +kernel)
  · obtain ⟨-, -, hexact⟩ := (isName_key_positive_iff hlong.1 hlong.2).mp h
    obtain ⟨d, hd, hvalue⟩ := hexact (Nat.mul_mod_left _ _)
    rw [value_of_integer rfl] at hvalue
    exact value_ne_of_shortest hd hvalue

end TypeScript.Numeral

end SnippetBridge
