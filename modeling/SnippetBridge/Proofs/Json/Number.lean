import SnippetBridge.Json.Printer
import SnippetBridge.Json.Reader
import SnippetBridge.Proofs.Binary64.Text

/-!
Reading the numbers of JSON texts. A number ends where no digit, point or exponent follows; up to
there it is read as what was written, a double never as an integer and an integer never as a double.
-/

namespace SnippetBridge

/-- JSON has no further digit behind a leading zero. -/
def DecimalForm.NoLeadingZero (form : DecimalForm) : Prop :=
  form.whole.length = 1 ∨ form.whole.head? ≠ some '0'

namespace Json

open Binary64

/-- What can follow a number without being taken for a part of it. -/
def EndsNumber (rest : List Char) : Prop :=
  ∀ c ∈ rest.head?, c.isDigit = false ∧ c ≠ '.' ∧ c ≠ 'e' ∧ c ≠ 'E'

variable {rest : List Char}

theorem endsNumber_nil : EndsNumber [] := by simp [EndsNumber]

theorem endsNumber_cons {c : Char} (hdigit : c.isDigit = false) (hpoint : c ≠ '.') (he : c ≠ 'e')
    (hE : c ≠ 'E') (rest : List Char) : EndsNumber (c :: rest) := by
  simp [EndsNumber, hdigit, hpoint, he, hE]

theorem EndsNumber.endsDigits (h : EndsNumber rest) : EndsDigits rest := fun c hc => (h c hc).1

theorem EndsNumber.ne_point (h : EndsNumber rest) (more : List Char) : rest ≠ '.' :: more := by
  rintro rfl
  exact (h '.' rfl).2.1 rfl

theorem endsDigits_exponentText_append (h : EndsNumber rest)
    (exponent : Option (Bool × List Char)) :
    EndsDigits (DecimalForm.exponentText exponent ++ rest) := by
  cases exponent with
  | none => exact h.endsDigits
  | some part => exact endsDigits_cons _ rfl

theorem exponentPart?_exponentText (h : EndsNumber rest) {exponent : Option (Bool × List Char)}
    (hdigits : ∀ negative ds, exponent = some (negative, ds) → ∀ c ∈ ds, c.isDigit)
    (hne : ∀ negative ds, exponent = some (negative, ds) → ds ≠ []) :
    exponentPart? (DecimalForm.exponentText exponent ++ rest) =
      some (exponent.map fun part => DecimalForm.exponentValue (some part), rest) := by
  cases exponent with
  | none =>
      cases rest with
      | nil => rfl
      | cons c rest =>
          obtain ⟨-, -, he, hE⟩ := h c rfl
          simp [DecimalForm.exponentText, exponentPart?, he, hE]
  | some part =>
      obtain ⟨negative, ds⟩ := part
      have hscan := scanDigits_append (hdigits negative ds rfl) h.endsDigits 0 0
      have hlength : ds.length ≠ 0 := fun hz => hne negative ds rfl (List.length_eq_zero_iff.mp hz)
      cases negative <;>
        simp [DecimalForm.exponentText, DecimalForm.exponentValue, exponentPart?, hscan, hlength]

/-- The digits in front of a number, which do not begin with a zero to spare. -/
theorem scanDigits_whole {form : DecimalForm} (h : form.WellFormed) (hzero : form.NoLeadingZero)
    {more : List Char} (hmore : EndsDigits more) :
    scanDigits (form.whole ++ more) 0 0 =
        (Nat.ofDigitChars 10 form.whole 0, form.whole.length, more) ∧
      ¬(form.whole.length = 0 ∨
        1 < form.whole.length ∧ (form.whole ++ more).head? = some '0') := by
  constructor
  · rw [scanDigits_append h.whole_digits hmore, Nat.zero_add]
  · rw [List.head?_append_of_ne_nil _ h.whole_ne_nil, List.length_eq_zero_iff]
    rintro (hnil | ⟨hlength, hhead⟩)
    · exact h.whole_ne_nil hnil
    · rcases hzero with hone | hne
      · omega
      · exact hne hhead

/-- A form with a point or an exponent is read as a double. -/
theorem unsigned?_toList {form : DecimalForm} (h : form.WellFormed) (hzero : form.NoLeadingZero)
    (hdecimal : form.fraction ≠ [] ∨ form.exponent ≠ none) (hrest : EndsNumber rest)
    {negative : Bool} {x : Binary64} (hfinite : x.isFinite = true)
    (hread : ofDecimal negative form.decimal.significand form.decimal.exponent = x) :
    unsigned? negative (form.toList ++ rest) = some (.decimal x hfinite, rest) := by
  subst hread
  obtain ⟨whole, fraction, exponent⟩ := form
  have hends := endsDigits_exponentText_append hrest exponent
  have hexponent : exponentPart? (DecimalForm.exponentText exponent ++ rest) =
      some (exponent.map fun part => DecimalForm.exponentValue (some part), rest) :=
    exponentPart?_exponentText hrest h.exponent_digits h.exponent_ne_nil
  cases fraction with
  | nil =>
      obtain ⟨hscan, hstart⟩ := scanDigits_whole h hzero hends
      -- Without an exponent either, the text would be read as an integer.
      obtain ⟨part, rfl⟩ : ∃ part, exponent = some part := by
        simpa [Option.ne_none_iff_exists'] using hdecimal
      have hvalue : (DecimalForm.mk whole [] (some part)).decimal =
          ⟨Nat.ofDigitChars 10 whole 0, DecimalForm.exponentValue (some part)⟩ := by
        simp [DecimalForm.decimal]
      simp only [hvalue] at hfinite ⊢
      simp only [DecimalForm.toList, DecimalForm.pointed, List.append_nil, List.append_assoc,
        unsigned?, hscan, if_neg hstart]
      split
      · rename_i more hmore
        simp [DecimalForm.exponentText] at hmore
      · simp [hexponent, hfinite]
  | cons d fraction =>
      have hdigits : ∀ c ∈ d :: fraction, c.isDigit := h.fraction_digits
      have hfraction := scanDigits_append hdigits hends (Nat.ofDigitChars 10 whole 0) 0
      have hpoint : EndsDigits
          ('.' :: (d :: fraction ++ (DecimalForm.exponentText exponent ++ rest))) :=
        endsDigits_cons _ rfl
      obtain ⟨hscan, hstart⟩ := scanDigits_whole h hzero hpoint
      simp only [DecimalForm.toList, DecimalForm.pointed_cons, List.append_assoc,
        List.cons_append, unsigned?] at hscan hstart ⊢
      simp only [List.cons_append, Nat.zero_add] at hfraction
      have hvalue : (DecimalForm.mk whole (d :: fraction) exponent).decimal =
          ⟨Nat.ofDigitChars 10 (d :: fraction) (Nat.ofDigitChars 10 whole 0),
            DecimalForm.exponentValue exponent - (fraction.length + 1)⟩ := by
        simp [DecimalForm.decimal, Nat.ofDigitChars_append]
      simp only [hvalue] at hfinite ⊢
      have hgetD : (exponent.map fun part => DecimalForm.exponentValue (some part)).getD 0 =
          DecimalForm.exponentValue exponent := by cases exponent <;> rfl
      simp only [hscan, if_neg hstart, hfraction]
      simp only [Option.bind_eq_bind, Option.bind_some, List.length_cons, Nat.succ_ne_zero,
        if_false]
      rw [hexponent]
      simp [hgetD, hfinite]

/-! ### The forms of doubles -/

theorem head?_toDigits {n : Nat} (hn : n ≠ 0) : (Nat.toDigits 10 n).head? ≠ some '0' := by
  induction n using Nat.strongRecOn with
  | ind n ih =>
      rcases Nat.lt_or_ge n 10 with hlt | hge
      · rw [Nat.toDigits_of_lt_base hlt]
        simpa using hn
      · rw [Nat.toDigits_of_base_le (by decide) hge,
          List.head?_append_of_ne_nil _ Nat.toDigits_ne_nil]
        exact ih (n / 10) (by omega) (by omega)

/-- The form that the text of a double has: always with a point or an exponent. -/
def doubleForm (d : Decimal) : DecimalForm :=
  let leading := d.exponent + (d.digits.length - 1 : Nat)
  if -5 ≤ leading ∧ leading < 16 then
    if 0 ≤ d.exponent then { d.plainForm with fraction := ['0'] } else d.plainForm
  else
    ⟨d.digits.take 1, d.digits.drop 1,
      some (decide (leading < 0), Nat.toDigits 10 leading.natAbs)⟩

theorem fraction_plainForm {d : Decimal} (h : 0 ≤ d.exponent) : d.plainForm.fraction = [] := by
  obtain ⟨significand, exponent⟩ := d
  cases exponent with
  | ofNat e => rfl
  | negSucc e => simp at h

theorem decimalText_eq (d : Decimal) : decimalText d = (doubleForm d).toList := by
  simp only [decimalText, doubleForm]
  split
  · split
    · rename_i hexponent
      rw [Decimal.plain_eq_toList]
      simp [DecimalForm.toList, Decimal.exponent_plainForm, fraction_plainForm hexponent,
        DecimalForm.pointed, DecimalForm.exponentText]
    · exact d.plain_eq_toList
  · obtain ⟨c, ds, hdigits⟩ := List.exists_cons_of_ne_nil d.digits_ne_nil
    rw [hdigits]
    cases ds with
    | nil => simp [DecimalForm.toList, DecimalForm.pointed, DecimalForm.exponentText]
    | cons e ds => simp [DecimalForm.toList, DecimalForm.pointed, DecimalForm.exponentText]

theorem doubleForm_wellFormed (d : Decimal) : (doubleForm d).WellFormed := by
  have hplain := d.plainForm_wellFormed
  simp only [doubleForm]
  split
  · split
    · exact ⟨hplain.whole_digits, hplain.whole_ne_nil, by simp, hplain.exponent_digits,
        hplain.exponent_ne_nil⟩
    · exact hplain
  · refine ⟨fun c hc => ?_, ?_, fun c hc => ?_, ?_, ?_⟩
    · exact Decimal.isDigit_of_mem_digits (List.mem_of_mem_take hc)
    · simp [d.digits_ne_nil]
    · exact Decimal.isDigit_of_mem_digits (List.mem_of_mem_drop hc)
    · rintro negative ds ⟨⟩ c hc
      exact Nat.isDigit_of_mem_toDigits (by decide) (by decide) hc
    · rintro negative ds ⟨⟩
      exact Nat.toDigits_ne_nil

theorem exponentValue_toDigits (n : Int) :
    DecimalForm.exponentValue (some (decide (n < 0), Nat.toDigits 10 n.natAbs)) = n := by
  simp only [DecimalForm.exponentValue, Nat.ofDigitChars_ten_toDigits, decide_eq_true_eq]
  split <;> omega

theorem doubleForm_denotes (d : Decimal) : (doubleForm d).Denotes d := by
  have hplain := d.plainForm_denotes
  simp only [doubleForm]
  split
  · split
    · rename_i hexponent
      simp only [DecimalForm.Denotes, DecimalForm.decimal, fraction_plainForm hexponent,
        Decimal.exponent_plainForm, DecimalForm.exponentValue, List.append_nil, List.length_nil,
        Nat.cast_zero, sub_zero, zpow_zero, mul_one] at hplain ⊢
      rw [← hplain, Nat.ofDigitChars_append, Nat.ofDigitChars_cons]
      simp
      ring
    · exact hplain
  · have hlength := List.length_pos_iff.mpr d.digits_ne_nil
    have hsame : d.exponent + ((d.digits.length - 1 : Nat) : Int) - (d.digits.drop 1).length =
        d.exponent := by
      rw [List.length_drop]
      omega
    simp only [DecimalForm.Denotes, DecimalForm.decimal, List.take_append_drop,
      exponentValue_toDigits, hsame, d.ofDigitChars_digits]

theorem doubleForm_decimal (d : Decimal) :
    (doubleForm d).fraction ≠ [] ∨ (doubleForm d).exponent ≠ none := by
  simp only [doubleForm]
  split
  · split
    · exact .inl (by simp)
    · rename_i hexponent
      obtain ⟨significand, exponent⟩ := d
      cases exponent with
      | ofNat e => simp at hexponent
      | negSucc e =>
          have hlength := Decimal.lt_length_padded ⟨significand, Int.negSucc e⟩ (e + 1)
          refine .inl ?_
          rw [Decimal.plainForm, ← List.length_pos_iff, List.length_drop]
          omega
  · exact .inr (by simp)

theorem doubleForm_noLeadingZero {d : Decimal} (h : d.significand ≠ 0) :
    (doubleForm d).NoLeadingZero := by
  have hhead : d.digits.head? ≠ some '0' := head?_toDigits h
  have hplain : d.plainForm.NoLeadingZero := by
    obtain ⟨significand, exponent⟩ := d
    cases exponent with
    | ofNat e =>
        refine .inr ?_
        rw [Decimal.plainForm, List.head?_append_of_ne_nil _ (Decimal.digits_ne_nil _)]
        exact hhead
    | negSucc e =>
        simp only [Decimal.plainForm, DecimalForm.NoLeadingZero, Decimal.padded, List.length_take,
          List.length_append, List.length_replicate]
        generalize Decimal.digits ⟨significand, Int.negSucc e⟩ = ds at hhead ⊢
        -- Either zeros were put in front and one digit stands before the point, or none were.
        rcases Nat.lt_or_ge ds.length (e + 2) with hfew | hmany
        · left
          omega
        · right
          have hnone : e + 1 + 1 - ds.length = 0 := by omega
          rw [hnone, List.replicate_zero, List.nil_append, List.head?_take, if_neg (by omega)]
          exact hhead
  simp only [doubleForm]
  split
  · split
    · exact hplain
    · exact hplain
  · refine .inl ?_
    have := List.length_pos_iff.mpr d.digits_ne_nil
    rw [List.length_take]
    omega

/-! ### Numbers -/

theorem number?_of_isDigit {c : Char} (hc : c.isDigit) (cs : List Char) :
    number? (c :: cs) = unsigned? false (c :: cs) := by
  unfold number?
  split
  · rename_i heq
    rw [(List.cons.inj heq).1] at hc
    simp at hc
  · rfl

theorem exists_digit_of_toList {form : DecimalForm} (h : form.WellFormed) :
    ∃ c cs, form.toList = c :: cs ∧ c.isDigit := by
  obtain ⟨c, whole, hwhole⟩ := List.exists_cons_of_ne_nil h.whole_ne_nil
  refine ⟨c, whole ++ DecimalForm.pointed form.fraction ++ DecimalForm.exponentText form.exponent,
    ?_, h.whole_digits c (hwhole ▸ List.mem_cons_self)⟩
  rw [DecimalForm.toList, hwhole]
  simp

/-- The text of a magnitude of a double, as a form. -/
def magnitudeForm (units : Nat) : DecimalForm :=
  if units = 0 then ⟨['0'], ['0'], none⟩ else doubleForm (shortest .even units)

theorem doubleText_finite (negative : Bool) {units : Nat} (hrep : Representable units) :
    doubleText (.finite negative units hrep) =
      if negative then '-' :: (magnitudeForm units).toList else (magnitudeForm units).toList := by
  have hmagnitude : (if units = 0 then ['0', '.', '0'] else decimalText (shortest .even units)) =
      (magnitudeForm units).toList := by
    rw [magnitudeForm]
    split
    · rfl
    · exact decimalText_eq _
  simp only [doubleText, hmagnitude]

theorem magnitudeForm_wellFormed (units : Nat) : (magnitudeForm units).WellFormed := by
  rw [magnitudeForm]
  split
  · exact ⟨by simp, by simp, by simp, by simp, by simp⟩
  · exact doubleForm_wellFormed _

theorem unsigned?_magnitudeForm (hrest : EndsNumber rest) (negative : Bool) {units : Nat}
    (hrep : Representable units) :
    unsigned? negative ((magnitudeForm units).toList ++ rest) =
      some (.decimal (.finite negative units hrep) rfl, rest) := by
  refine unsigned?_toList (magnitudeForm_wellFormed units) ?_ ?_ hrest rfl ?_
  · rw [magnitudeForm]
    split
    · exact .inl rfl
    · rename_i hunits
      exact doubleForm_noLeadingZero (significand_shortest_ne_zero hrep hunits .even)
  · rw [magnitudeForm]
    split
    · exact .inl (by simp)
    · exact doubleForm_decimal _
  · rw [magnitudeForm]
    split
    · rename_i hunits
      subst hunits
      have hvalue : (DecimalForm.mk ['0'] ['0'] none).decimal = ⟨0, -1⟩ := rfl
      rw [hvalue]
      simp [ofDecimal, zero]
    · exact ofDecimal_of_value negative hrep (decimalUnits_shortest hrep .even)
        (doubleForm_denotes _)

theorem number?_doubleText (hrest : EndsNumber rest) {x : Binary64} (hfinite : x.isFinite = true) :
    number? (doubleText x ++ rest) = some (.decimal x hfinite, rest) := by
  obtain ⟨negative, units, hrep, rfl⟩ := exists_of_isFinite hfinite
  have hread := unsigned?_magnitudeForm hrest negative hrep
  rw [doubleText_finite]
  cases negative with
  | true => exact hread
  | false =>
      obtain ⟨c, cs, htext, hdigit⟩ := exists_digit_of_toList (magnitudeForm_wellFormed units)
      simp only [Bool.false_eq_true, if_false]
      rw [htext] at hread ⊢
      rw [List.cons_append, number?_of_isDigit hdigit]
      exact hread

theorem unsigned?_toDigits (hrest : EndsNumber rest) (negative : Bool) (n : Nat) :
    unsigned? negative (Nat.toDigits 10 n ++ rest) =
      (integerNumber? negative n).map fun number => (number, rest) := by
  let form : DecimalForm := ⟨Nat.toDigits 10 n, [], none⟩
  have hform : form.WellFormed := by
    refine ⟨fun c hc => ?_, Nat.toDigits_ne_nil, by simp [form], by simp [form], by simp [form]⟩
    exact Nat.isDigit_of_mem_toDigits (by decide) (by decide) hc
  have hzero : form.NoLeadingZero := by
    rcases Nat.eq_zero_or_pos n with rfl | hpos
    · exact .inl rfl
    · exact .inr (head?_toDigits hpos.ne')
  obtain ⟨hscan, hstart⟩ := scanDigits_whole hform hzero hrest.endsDigits
  have hexponent : exponentPart? rest = some (none, rest) :=
    exponentPart?_exponentText hrest hform.exponent_digits hform.exponent_ne_nil
  simp only [form, Nat.ofDigitChars_ten_toDigits] at hscan hstart
  simp only [unsigned?, hscan, if_neg hstart]
  split
  · exact absurd rfl (hrest.ne_point _)
  · simp only [Option.bind_eq_bind, Option.bind_some, hexponent]
    cases integerNumber? negative n <;> rfl

theorem exists_digit_of_toDigits (n : Nat) : ∃ c cs, Nat.toDigits 10 n = c :: cs ∧ c.isDigit := by
  have hne : Nat.toDigits 10 n ≠ [] := Nat.toDigits_ne_nil
  obtain ⟨c, cs, htext⟩ := List.exists_cons_of_ne_nil hne
  have hmem : c ∈ Nat.toDigits 10 n := htext ▸ List.mem_cons_self
  exact ⟨c, cs, htext, Nat.isDigit_of_mem_toDigits (by decide) (by decide) hmem⟩

theorem integerNumber?_of_fits {negative : Bool} {magnitude : Nat} {value : Int}
    (hvalue : (if negative then -(magnitude : Int) else magnitude) = value) (hfits : FitsWord value)
    (hzero : ¬(negative = true ∧ magnitude = 0)) :
    integerNumber? negative magnitude = some (.integer value hfits) := by
  subst hvalue
  rw [integerNumber?, dif_pos ⟨hfits, hzero⟩]

/-- An integer that fits a word is read as itself: a minus is never in front of a zero. -/
theorem number?_integerText (hrest : EndsNumber rest) {value : Int} (hfits : FitsWord value) :
    number? (integerText value ++ rest) = some (.integer value hfits, rest) := by
  cases value with
  | ofNat n =>
      have hnumber : integerNumber? false n = some (.integer (Int.ofNat n) hfits) :=
        integerNumber?_of_fits (by simp) hfits (by simp)
      obtain ⟨c, cs, htext, hdigit⟩ := exists_digit_of_toDigits n
      have hread := unsigned?_toDigits hrest false n
      rw [htext, hnumber] at hread
      rw [integerText, htext, List.cons_append, number?_of_isDigit hdigit]
      exact hread
  | negSucc n =>
      have hnumber : integerNumber? true (n + 1) = some (.integer (Int.negSucc n) hfits) :=
        integerNumber?_of_fits (by simp [Int.negSucc_eq]) hfits (by simp)
      have hread := unsigned?_toDigits hrest true (n + 1)
      rw [hnumber] at hread
      exact hread

/-- A number is read as it was written. -/
theorem number?_text (hrest : EndsNumber rest) (n : Number) :
    number? (n.text ++ rest) = some (n, rest) := by
  cases n with
  | integer value hfits => exact number?_integerText hrest hfits
  | decimal value hfinite => exact number?_doubleText hrest hfinite

/-- A number starts with a digit or a minus. -/
theorem exists_head_of_text (n : Number) : ∃ c cs, n.text = c :: cs ∧ (c.isDigit ∨ c = '-') := by
  cases n with
  | integer value hfits =>
      cases value with
      | ofNat n =>
          obtain ⟨c, cs, htext, hdigit⟩ := exists_digit_of_toDigits n
          exact ⟨c, cs, htext, .inl hdigit⟩
      | negSucc n => exact ⟨'-', _, rfl, .inr rfl⟩
  | decimal value hfinite =>
      obtain ⟨negative, units, hrep, rfl⟩ := exists_of_isFinite hfinite
      rw [Number.text, doubleText_finite]
      cases negative with
      | true => exact ⟨'-', _, rfl, .inr rfl⟩
      | false =>
          obtain ⟨c, cs, htext, hdigit⟩ :=
            exists_digit_of_toList (magnitudeForm_wellFormed units)
          exact ⟨c, cs, htext, .inl hdigit⟩

end Json

end SnippetBridge
