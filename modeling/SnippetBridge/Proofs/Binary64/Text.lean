import Mathlib.Tactic.NormNum
import SnippetBridge.Binary64.Text
import SnippetBridge.Proofs.Binary64.Shortest

/-!
Decimal text and what it is read as. All printers of doubles write a decimal *form*: digits, perhaps
a point with more digits, perhaps an exponent. A form has a value, and the readers round that value;
so any form of the value of a double's shortest decimal reads back as the double.
-/

namespace SnippetBridge

/-- A decimal as it is spelled. Without digits after the point there is no point. -/
structure DecimalForm where
  whole : List Char
  fraction : List Char
  /-- Whether the exponent is negative, and its digits. -/
  exponent : Option (Bool × List Char)

namespace DecimalForm

def pointed : List Char → List Char
  | [] => []
  | ds => '.' :: ds

theorem pointed_cons (d : Char) (ds : List Char) : pointed (d :: ds) = '.' :: d :: ds := rfl

def exponentText : Option (Bool × List Char) → List Char
  | none => []
  | some (negative, ds) => 'e' :: (if negative then '-' else '+') :: ds

def toList (form : DecimalForm) : List Char :=
  form.whole ++ pointed form.fraction ++ exponentText form.exponent

def exponentValue : Option (Bool × List Char) → Int
  | none => 0
  | some (negative, ds) =>
    if negative then -(Nat.ofDigitChars 10 ds 0 : Int) else Nat.ofDigitChars 10 ds 0

/-- The decimal that a form spells. -/
def decimal (form : DecimalForm) : Decimal where
  significand := Nat.ofDigitChars 10 (form.whole ++ form.fraction) 0
  exponent := exponentValue form.exponent - form.fraction.length

/-- There are digits where digits have to be, and nothing else. -/
structure WellFormed (form : DecimalForm) : Prop where
  whole_digits : ∀ c ∈ form.whole, c.isDigit
  whole_ne_nil : form.whole ≠ []
  fraction_digits : ∀ c ∈ form.fraction, c.isDigit
  exponent_digits : ∀ negative ds, form.exponent = some (negative, ds) → ∀ c ∈ ds, c.isDigit
  exponent_ne_nil : ∀ negative ds, form.exponent = some (negative, ds) → ds ≠ []

/-- A form of the value of a decimal. -/
def Denotes (form : DecimalForm) (d : Decimal) : Prop :=
  (form.decimal.significand : ℚ) * 10 ^ form.decimal.exponent = d.significand * 10 ^ d.exponent

end DecimalForm

namespace Decimal

theorem isDigit_of_mem_digits {d : Decimal} {c : Char} (h : c ∈ d.digits) : c.isDigit :=
  Nat.isDigit_of_mem_toDigits (by decide) (by decide) h

theorem digits_ne_nil (d : Decimal) : d.digits ≠ [] := Nat.toDigits_ne_nil

theorem ofDigitChars_digits (d : Decimal) : Nat.ofDigitChars 10 d.digits 0 = d.significand :=
  Nat.ofDigitChars_ten_toDigits

/-! ### Positional forms -/

/-- The digits with zeros in front of them where the point would have none before it. -/
def padded (d : Decimal) (places : Nat) : List Char :=
  List.replicate (places + 1 - d.digits.length) '0' ++ d.digits

def plainForm (d : Decimal) : DecimalForm :=
  match d.exponent with
  | .ofNat e => ⟨d.digits ++ List.replicate e '0', [], none⟩
  | .negSucc e =>
    let ds := d.padded (e + 1)
    ⟨ds.take (ds.length - (e + 1)), ds.drop (ds.length - (e + 1)), none⟩

theorem exponent_plainForm (d : Decimal) : d.plainForm.exponent = none := by
  obtain ⟨significand, exponent⟩ := d
  cases exponent <;> rfl

theorem lt_length_padded (d : Decimal) (places : Nat) : places < (d.padded places).length := by
  simp only [padded, List.length_append, List.length_replicate]
  omega

theorem isDigit_of_mem_padded {d : Decimal} {places : Nat} {c : Char} (h : c ∈ d.padded places) :
    c.isDigit := by
  rcases List.mem_append.mp h with hzero | hdigit
  · rw [List.eq_of_mem_replicate hzero]
    rfl
  · exact isDigit_of_mem_digits hdigit

theorem plainForm_wellFormed (d : Decimal) : d.plainForm.WellFormed := by
  obtain ⟨significand, exponent⟩ := d
  cases exponent with
  | ofNat e =>
      refine ⟨fun c hc => ?_, ?_, by simp [plainForm], by simp [plainForm], by simp [plainForm]⟩
      · rcases List.mem_append.mp hc with hdigit | hzero
        · exact isDigit_of_mem_digits hdigit
        · rw [List.eq_of_mem_replicate hzero]
          rfl
      · exact fun hnil => digits_ne_nil _ (List.append_eq_nil_iff.mp hnil).1
  | negSucc e =>
      refine ⟨fun c hc => ?_, ?_, fun c hc => ?_, by simp [plainForm], by simp [plainForm]⟩
      · exact isDigit_of_mem_padded (List.mem_of_mem_take hc)
      · have hlength := lt_length_padded ⟨significand, Int.negSucc e⟩ (e + 1)
        rw [plainForm, ← List.length_pos_iff, List.length_take]
        omega
      · exact isDigit_of_mem_padded (List.mem_of_mem_drop hc)

theorem plain_eq_toList (d : Decimal) : d.plain = d.plainForm.toList := by
  obtain ⟨significand, exponent⟩ := d
  cases exponent with
  | ofNat e => simp [plain, plainForm, DecimalForm.toList, DecimalForm.pointed,
      DecimalForm.exponentText]
  | negSucc e =>
      have hlength := lt_length_padded ⟨significand, Int.negSucc e⟩ (e + 1)
      have hdrop : (padded ⟨significand, Int.negSucc e⟩ (e + 1)).drop
          ((padded ⟨significand, Int.negSucc e⟩ (e + 1)).length - (e + 1)) ≠ [] := by
        rw [← List.length_pos_iff, List.length_drop]
        omega
      obtain ⟨c, fraction, hfraction⟩ := List.exists_cons_of_ne_nil hdrop
      simp only [plainForm, DecimalForm.toList, DecimalForm.exponentText, List.append_nil,
        hfraction, DecimalForm.pointed_cons]
      rw [← hfraction]
      rfl

theorem plainForm_denotes (d : Decimal) : d.plainForm.Denotes d := by
  obtain ⟨significand, exponent⟩ := d
  cases exponent with
  | ofNat e =>
      have hvalue : Nat.ofDigitChars 10 (digits ⟨significand, (e : Int)⟩) 0 = significand :=
        ofDigitChars_digits _
      simp [plainForm, DecimalForm.Denotes, DecimalForm.decimal, DecimalForm.exponentValue,
        Nat.ofDigitChars_append, hvalue, mul_comm]
  | negSucc e =>
      have hvalue : Nat.ofDigitChars 10 (digits ⟨significand, Int.negSucc e⟩) 0 = significand :=
        ofDigitChars_digits _
      have hlength := lt_length_padded ⟨significand, Int.negSucc e⟩ (e + 1)
      have hplaces : (padded ⟨significand, Int.negSucc e⟩ (e + 1)).length -
          ((padded ⟨significand, Int.negSucc e⟩ (e + 1)).length - (e + 1)) = e + 1 := by omega
      have hexponent : (Int.negSucc e) = 0 - ((e + 1 : Nat) : Int) := by omega
      simp only [plainForm, DecimalForm.Denotes, DecimalForm.decimal, DecimalForm.exponentValue,
        List.take_append_drop, List.length_drop, hplaces, ← hexponent]
      simp only [padded, Nat.ofDigitChars_append, Nat.ofDigitChars_replicate_zero, Nat.mul_zero,
        hvalue]

end Decimal

namespace Binary64

/-! ### Reading forms -/

/-- What a row of digits ends at. -/
def EndsDigits (rest : List Char) : Prop := ∀ c ∈ rest.head?, c.isDigit = false

theorem endsDigits_nil : EndsDigits [] := by simp [EndsDigits]

theorem endsDigits_cons {c : Char} (rest : List Char) (h : c.isDigit = false) :
    EndsDigits (c :: rest) := by simp [EndsDigits, h]

theorem scanDigits_append {ds rest : List Char} (hds : ∀ c ∈ ds, c.isDigit)
    (hrest : EndsDigits rest) (value count : Nat) :
    scanDigits (ds ++ rest) value count =
      (Nat.ofDigitChars 10 ds value, count + ds.length, rest) := by
  induction ds generalizing value count with
  | nil =>
      cases rest with
      | nil => simp [scanDigits]
      | cons c rest =>
          have hc : c.isDigit = false := hrest c rfl
          simp [scanDigits, hc]
  | cons c ds ih =>
      simp only [List.forall_mem_cons] at hds
      simp only [List.cons_append, scanDigits, hds.1, if_pos, ih hds.2, Nat.ofDigitChars_cons,
        List.length_cons]
      rw [show '0'.toNat = 48 from rfl, Nat.add_right_comm, Nat.add_assoc]

theorem endsDigits_exponentText (exponent : Option (Bool × List Char)) :
    EndsDigits (DecimalForm.exponentText exponent) := by
  cases exponent with
  | none => exact endsDigits_nil
  | some part => exact endsDigits_cons _ rfl

theorem scanExponent?_exponentText {exponent : Option (Bool × List Char)}
    (hdigits : ∀ negative ds, exponent = some (negative, ds) → ∀ c ∈ ds, c.isDigit)
    (hne : ∀ negative ds, exponent = some (negative, ds) → ds ≠ []) :
    scanExponent? (DecimalForm.exponentText exponent) =
      some (DecimalForm.exponentValue exponent) := by
  cases exponent with
  | none => rfl
  | some part =>
      obtain ⟨negative, ds⟩ := part
      have hscan := scanDigits_append (hdigits negative ds rfl) endsDigits_nil 0 0
      have hlength : ds.length ≠ 0 := fun h => hne negative ds rfl (List.length_eq_zero_iff.mp h)
      rw [List.append_nil] at hscan
      cases negative <;>
        simp [DecimalForm.exponentText, DecimalForm.exponentValue, scanExponent?, hscan, hlength]

/-- A well-formed form is read as the double nearest to its value. -/
theorem ofUnsigned?_toList {form : DecimalForm} (h : form.WellFormed) (negative : Bool) :
    ofUnsigned? negative form.toList =
      some (ofDecimal negative form.decimal.significand form.decimal.exponent) := by
  obtain ⟨whole, fraction, exponent⟩ := form
  have hexponent : scanExponent? (DecimalForm.exponentText exponent) =
      some (DecimalForm.exponentValue exponent) :=
    scanExponent?_exponentText h.exponent_digits h.exponent_ne_nil
  have hwhole : whole.length ≠ 0 := fun hzero => h.whole_ne_nil (List.length_eq_zero_iff.mp hzero)
  have hends := endsDigits_exponentText exponent
  have hscan (rest : List Char) (hrest : EndsDigits rest) :
      scanDigits (whole ++ rest) 0 0 = (Nat.ofDigitChars 10 whole 0, whole.length, rest) := by
    rw [scanDigits_append h.whole_digits hrest, Nat.zero_add]
  -- Only with a fraction does the reader come to a point.
  cases fraction with
  | nil =>
      have hpoint : ∀ more, DecimalForm.exponentText exponent = '.' :: more → False := by
        intro more
        cases exponent <;> simp [DecimalForm.exponentText]
      rw [DecimalForm.toList, DecimalForm.pointed, List.append_nil, ofUnsigned?, hscan _ hends]
      dsimp only
      split
      · rename_i more hmore
        exact (hpoint more hmore).elim
      · simp [hwhole, hexponent, DecimalForm.decimal]
  | cons d fraction =>
      have hpoint : EndsDigits ('.' :: (d :: fraction ++ DecimalForm.exponentText exponent)) :=
        endsDigits_cons _ rfl
      have hfraction : scanDigits (d :: fraction ++ DecimalForm.exponentText exponent)
          (Nat.ofDigitChars 10 whole 0) whole.length =
            (Nat.ofDigitChars 10 (d :: fraction) (Nat.ofDigitChars 10 whole 0),
              whole.length + (d :: fraction).length, DecimalForm.exponentText exponent) :=
        scanDigits_append h.fraction_digits hends _ _
      rw [DecimalForm.toList, DecimalForm.pointed_cons, List.append_assoc, List.cons_append,
        ofUnsigned?, hscan _ hpoint]
      simp only [hfraction]
      simp [hexponent, DecimalForm.decimal, Nat.ofDigitChars_append]

/-- Any form of the shortest decimal of a double is read as the double. -/
theorem ofUnsigned?_of_denotes {form : DecimalForm} {tie : Tie} {units : Nat}
    (hform : form.WellFormed) (hvalue : form.Denotes (shortest tie units))
    (hrep : Representable units) (negative : Bool) :
    ofUnsigned? negative form.toList = some (.finite negative units hrep) := by
  rw [ofUnsigned?_toList hform]
  exact congrArg some
    (ofDecimal_of_value negative hrep (decimalUnits_shortest hrep tie) hvalue)

/-! ### The plain form of a double -/

/-- The plain form of a magnitude. -/
def magnitudeText (units : Nat) : List Char :=
  if units = 0 then ['0'] else (shortest .up units).plain

theorem toList_plain (negative : Bool) {units : Nat} (hrep : Representable units) :
    (plain (.finite negative units hrep)).toList =
      if negative then '-' :: magnitudeText units else magnitudeText units := by
  rw [plain, String.toList_ofList]
  rfl

/-- The plain form of a magnitude is a form of its shortest decimal. -/
theorem exists_form_of_magnitudeText (units : Nat) : ∃ form : DecimalForm,
    magnitudeText units = form.toList ∧ form.WellFormed ∧ form.exponent = none := by
  by_cases hunits : units = 0
  · refine ⟨⟨['0'], [], none⟩, ?_, ⟨by simp, by simp, by simp, by simp, by simp⟩, rfl⟩
    rw [magnitudeText, if_pos hunits]
    rfl
  · refine ⟨(shortest .up units).plainForm, ?_, Decimal.plainForm_wellFormed _,
      Decimal.exponent_plainForm _⟩
    rw [magnitudeText, if_neg hunits, Decimal.plain_eq_toList]

/-- The plain form of a magnitude reads back. -/
theorem ofUnsigned?_magnitudeText {units : Nat} (hrep : Representable units) (negative : Bool) :
    ofUnsigned? negative (magnitudeText units) = some (.finite negative units hrep) := by
  by_cases hunits : units = 0
  · subst hunits
    simp [magnitudeText, ofUnsigned?, scanDigits, scanExponent?, ofDecimal, zero]
  · rw [magnitudeText, if_neg hunits, Decimal.plain_eq_toList]
    exact ofUnsigned?_of_denotes (Decimal.plainForm_wellFormed _) (Decimal.plainForm_denotes _)
      hrep negative

/-- A plain form starts with a digit and goes on with digits and a point. -/
theorem magnitudeText_eq_cons (units : Nat) : ∃ c cs, magnitudeText units = c :: cs ∧ c.isDigit ∧
    ∀ d ∈ cs, d.isDigit ∨ d = '.' := by
  obtain ⟨⟨whole, fraction, exponent⟩, htext, hform, hexponent⟩ :=
    exists_form_of_magnitudeText units
  obtain ⟨c, whole, rfl⟩ := List.exists_cons_of_ne_nil hform.whole_ne_nil
  obtain rfl : exponent = none := hexponent
  have hwhole := List.forall_mem_cons.mp hform.whole_digits
  refine ⟨c, whole ++ DecimalForm.pointed fraction, ?_, hwhole.1, fun d hd => ?_⟩
  · rw [htext, DecimalForm.toList]
    simp [DecimalForm.exponentText]
  · rcases List.mem_append.mp hd with hd | hd
    · exact .inl (hwhole.2 d hd)
    · cases fraction with
      | nil => simp [DecimalForm.pointed] at hd
      | cons e fraction =>
          rcases List.mem_cons.mp (DecimalForm.pointed_cons e fraction ▸ hd) with hd | hd
          · exact .inr hd
          · exact .inl (hform.fraction_digits d hd)

/-- A plain form starts with a digit or a minus and goes on with digits and a point. -/
theorem plain_eq_cons {x : Binary64} (hfinite : x.isFinite) : ∃ c cs, x.plain.toList = c :: cs ∧
    (c.isDigit ∨ c = '-') ∧ ∀ d ∈ cs, d.isDigit ∨ d = '.' := by
  obtain ⟨negative, units, hrep, rfl⟩ := exists_of_isFinite hfinite
  obtain ⟨c, cs, htext, hc, hcs⟩ := magnitudeText_eq_cons units
  rw [toList_plain, htext]
  cases negative with
  | false => exact ⟨c, cs, rfl, .inl hc, hcs⟩
  | true => exact ⟨'-', c :: cs, rfl, .inr rfl, List.forall_mem_cons.mpr ⟨.inl hc, hcs⟩⟩

/-- Finite doubles of the same plain form are the same, the sign of zero included. -/
theorem plain_injective {x y : Binary64} (hx : x.isFinite) (hy : y.isFinite)
    (h : x.plain = y.plain) : x = y := by
  obtain ⟨s, m, hm, rfl⟩ := exists_of_isFinite hx
  obtain ⟨t, n, hn, rfl⟩ := exists_of_isFinite hy
  have hlist := congrArg String.toList h
  rw [toList_plain, toList_plain] at hlist
  -- A magnitude never starts with a minus, so the signs agree.
  have hminus (units : Nat) (cs : List Char) : magnitudeText units ≠ '-' :: cs := by
    obtain ⟨c, ds, htext, hdigit, -⟩ := magnitudeText_eq_cons units
    rw [htext]
    rintro ⟨⟩
    simp at hdigit
  have hsame : s = t ∧ magnitudeText m = magnitudeText n := by
    cases s <;> cases t <;>
      simp only [Bool.false_eq_true, if_true, if_false, List.cons.injEq, true_and] at hlist
    · exact ⟨rfl, hlist⟩
    · exact absurd hlist (hminus m _)
    · exact absurd hlist.symm (hminus n _)
    · exact ⟨rfl, hlist⟩
  have hread := ofUnsigned?_magnitudeText hm s
  rw [hsame.2, hsame.1, ofUnsigned?_magnitudeText hn t, Option.some.injEq] at hread
  rw [hsame.1]
  exact hread.symm

end Binary64

end SnippetBridge
