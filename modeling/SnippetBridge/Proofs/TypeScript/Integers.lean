import Mathlib.Data.Nat.Digits.Defs
import Mathlib.Tactic.IntervalCases
import SnippetBridge.Proofs.Binary64.Nearest
import SnippetBridge.Proofs.Binary64.Text
import SnippetBridge.Proofs.Value.Decidable
import SnippetBridge.TypeScript.Source

/-!
Integers as literals. An integer can be written in four bases, with separators between its digits,
and every spelling is read as the double nearest to it, but for a limit on the size: behind a prefix
the digits have to fit into a word of 64 bits, while there is no limit without one. From `2 ^ 64` on
only the decimal spellings are numbers.
-/

namespace SnippetBridge.TypeScript.Numeral

open Binary64 (IsNearest ofDecimal ofNat ofUnsigned?)
open Text (digitValue? numeral? numeralFrom?)

/-! ### Spellings -/

/-- A character that stands for a digit; the letters stand for the digits from ten on, in either
case. -/
def WritesDigit (c : Char) (d : Nat) : Prop := c = Nat.digitChar d ∨ c = (Nat.digitChar d).toUpper

/-- The digits of a number in a base, the highest first, with single underscores between groups of
them. -/
inductive WritesDigits (base n : Nat) : List Char → Prop where
  | intro {groups : List (List Char)} {digits : List Nat} (hgroups : ∀ group ∈ groups, group ≠ [])
      (hnonempty : digits ≠ []) (hdigits : List.Forall₂ WritesDigit groups.flatten digits)
      (hbase : ∀ d ∈ digits, d < base) (hvalue : Nat.ofDigits base digits.reverse = n) :
      WritesDigits base n (['_'].intercalate groups)

/-- The letters that stand for a base behind a zero. -/
def baseLetters : List (Char × Nat) :=
  [('x', 16), ('X', 16), ('o', 8), ('O', 8), ('b', 2), ('B', 2)]

/-- The literals of an integer that is no big integer. Decimal digits begin with a zero only if there
is no other digit. -/
inductive Spells (n : Nat) : Nat → List Char → Prop where
  | decimal {text : List Char} (h : WritesDigits 10 n text)
      (hzero : text = ['0'] ∨ text.head? ≠ some '0') : Spells n 10 text
  | based {letter : Char} {base : Nat} {text : List Char} (hletter : (letter, base) ∈ baseLetters)
      (h : WritesDigits base n text) : Spells n base ('0' :: letter :: text)

/-! ### Digits -/

theorem writes_digitChars (digits : List Nat) :
    List.Forall₂ WritesDigit (digits.map Nat.digitChar) digits := by
  rw [List.forall₂_map_left_iff, List.forall₂_same]
  exact fun d _ => .inl rfl

theorem digitValue?_of_writesDigit {c : Char} {d : Nat} (h : WritesDigit c d) (hd : d < 16) :
    digitValue? c = some d ∧ c ≠ '_' ∧ c ≠ 'n' := by
  interval_cases d <;> rcases h with rfl | rfl <;> decide

theorem isDigit_of_writesDigit {c : Char} {d : Nat} (h : WritesDigit c d) (hd : d < 10) :
    c.isDigit ∧ c.toNat - '0'.toNat = d := by
  interval_cases d <;> rcases h with rfl | rfl <;> decide

variable {base : Nat} {cs : List Char} {digits : List Nat}

/-- The number that digits add up to behind others. -/
def addDigits (base : Nat) (digits : List Nat) (acc : Nat) : Nat :=
  digits.foldl (fun acc d => base * acc + d) acc

theorem addDigits_zero (base : Nat) (digits : List Nat) :
    addDigits base digits 0 = Nat.ofDigits base digits.reverse := by
  simp [addDigits, Nat.ofDigits_eq_foldr, Nat.add_comm]

theorem numeralFrom?_of_writes (hdigits : List.Forall₂ WritesDigit cs digits)
    (hbase : ∀ d ∈ digits, d < base) (hsmall : base ≤ 16) (acc : Nat) :
    numeralFrom? base acc cs = some (addDigits base digits acc) := by
  induction hdigits generalizing acc with
  | nil => rfl
  | cons hdigit _ ih =>
      obtain ⟨hd, hrest⟩ := List.forall_mem_cons.mp hbase
      rw [numeralFrom?, (digitValue?_of_writesDigit hdigit (hd.trans_le hsmall)).1,
        Option.bind_eq_bind, Option.bind_some, if_pos hd, ih hrest]
      rfl

theorem ofDigitChars_of_writes (hdigits : List.Forall₂ WritesDigit cs digits)
    (hbase : ∀ d ∈ digits, d < 10) (acc : Nat) :
    Nat.ofDigitChars 10 cs acc = addDigits 10 digits acc := by
  induction hdigits generalizing acc with
  | nil => rfl
  | cons hdigit _ ih =>
      obtain ⟨hd, hrest⟩ := List.forall_mem_cons.mp hbase
      rw [Nat.ofDigitChars_cons, (isDigit_of_writesDigit hdigit hd).2, ih hrest]
      rfl

/-- What holds of each character that stands for a digit of a base holds of all in a row. -/
theorem forall_of_writes {p : Char → Prop} {bound : Nat}
    (h : ∀ {c d}, WritesDigit c d → d < bound → p c)
    (hdigits : List.Forall₂ WritesDigit cs digits) (hbound : ∀ d ∈ digits, d < bound) :
    ∀ c ∈ cs, p c := by
  induction hdigits with
  | nil => simp
  | cons hdigit _ ih =>
      obtain ⟨hd, hrest⟩ := List.forall_mem_cons.mp hbound
      exact List.forall_mem_cons.mpr ⟨h hdigit hd, ih hrest⟩

theorem ne_of_writes (hdigits : List.Forall₂ WritesDigit cs digits)
    (hbase : ∀ d ∈ digits, d < base) (hsmall : base ≤ 16) : ∀ c ∈ cs, c ≠ '_' ∧ c ≠ 'n' :=
  forall_of_writes (fun h hd => (digitValue?_of_writesDigit h (hd.trans_le hsmall)).2) hdigits hbase

/-! ### Separators -/

/-- Without the separators the groups stand side by side. -/
theorem filter_intercalate {groups : List (List Char)} (h : ∀ c ∈ groups.flatten, c ≠ '_') :
    (['_'].intercalate groups).filter (· != '_') = groups.flatten := by
  match groups with
  | [] => rfl
  | [group] => simpa using h
  | group :: next :: rest =>
      rw [List.flatten_cons] at h
      obtain ⟨hgroup, hrest⟩ := List.forall_mem_append.mp h
      have hself : group.filter (· != '_') = group := by simpa using hgroup
      rw [List.intercalate_cons_cons, List.filter_append, List.filter_append, hself,
        filter_intercalate hrest]
      simp

theorem head?_intercalate {groups : List (List Char)} (h : ∀ group ∈ groups, group ≠ []) :
    (['_'].intercalate groups).head? = groups.flatten.head? := by
  match groups with
  | [] => rfl
  | [group] => simp
  | group :: next :: rest =>
      obtain ⟨c, front, rfl⟩ := List.exists_cons_of_ne_nil (h group List.mem_cons_self)
      rw [List.intercalate_cons_cons]
      rfl

/-! ### Reading -/

/-- Without a prefix the digits are read as a decimal. -/
theorem unseparated?_of_decimal (h : cs = ['0'] ∨ cs.head? ≠ some '0') :
    unseparated? cs = ofUnsigned? false cs := by
  rcases h with rfl | h
  · rfl
  · unfold unseparated?
    split
    · simp at h
    · rfl

theorem ofDecimal_zero (n : Nat) : ofDecimal false n 0 = ofNat n := by
  have hunits : Binary64.decimalUnits n 0 = Binary64.nearestUnits (n * Binary64.one) 1 := by
    rw [Binary64.decimalUnits_eq]
    simp
  rw [Binary64.ofDecimal_eq, Binary64.ofNat_eq, hunits]

theorem ofUnsigned?_of_isDigit (hne : cs ≠ []) (h : ∀ c ∈ cs, c.isDigit) :
    ofUnsigned? false cs = some (ofNat (Nat.ofDigitChars 10 cs 0)) := by
  have hform : DecimalForm.WellFormed ⟨cs, [], none⟩ := ⟨h, hne, by simp, by simp, by simp⟩
  have hread := Binary64.ofUnsigned?_toList hform false
  simp only [DecimalForm.toList, DecimalForm.pointed, DecimalForm.exponentText,
    DecimalForm.decimal, DecimalForm.exponentValue, List.append_nil, List.length_nil] at hread
  rw [hread]
  exact congrArg some (ofDecimal_zero _)

theorem unseparated?_of_decimal_digits (hnonempty : digits ≠ [])
    (hdigits : List.Forall₂ WritesDigit cs digits) (hbase : ∀ d ∈ digits, d < 10)
    (hzero : cs = ['0'] ∨ cs.head? ≠ some '0') :
    unseparated? cs = some (ofNat (Nat.ofDigits 10 digits.reverse)) := by
  have hne : cs ≠ [] := by
    rintro rfl
    cases hdigits
    exact hnonempty rfl
  have hisDigit : ∀ c ∈ cs, c.isDigit :=
    forall_of_writes (fun h hd => (isDigit_of_writesDigit h hd).1) hdigits hbase
  rw [unseparated?_of_decimal hzero, ofUnsigned?_of_isDigit hne hisDigit,
    ofDigitChars_of_writes hdigits hbase, addDigits_zero]

theorem base?_of_mem {letter : Char} (h : (letter, base) ∈ baseLetters) :
    base? letter = some base ∧ letter ≠ '_' ∧ letter ≠ 'n' ∧ base ≠ 10 ∧ base ≤ 16 := by
  simp only [baseLetters, List.mem_cons, Prod.mk.injEq, List.not_mem_nil, or_false] at h
  rcases h with ⟨rfl, rfl⟩ | ⟨rfl, rfl⟩ | ⟨rfl, rfl⟩ | ⟨rfl, rfl⟩ | ⟨rfl, rfl⟩ | ⟨rfl, rfl⟩ <;>
    decide

/-- Behind a prefix the digits are read as a word. -/
theorem unseparated?_of_based_digits {letter : Char} (hletter : (letter, base) ∈ baseLetters)
    (hnonempty : digits ≠ []) (hdigits : List.Forall₂ WritesDigit cs digits)
    (hbase : ∀ d ∈ digits, d < base) :
    unseparated? ('0' :: letter :: cs) =
      if Nat.ofDigits base digits.reverse < 2 ^ 64 then
        some (ofNat (Nat.ofDigits base digits.reverse))
      else none := by
  obtain ⟨hread, -, -, -, hsmall⟩ := base?_of_mem hletter
  have hnumeral : numeral? base cs = some (Nat.ofDigits base digits.reverse) := by
    cases cs with
    | nil =>
        cases hdigits
        exact absurd rfl hnonempty
    | cons c cs =>
        rw [numeral?, numeralFrom?_of_writes hdigits hbase hsmall, addDigits_zero]
        simp
  generalize Nat.ofDigits base digits.reverse = n at hnumeral
  have hlimit : n ≤ 18446744073709551615 ↔ n < 2 ^ 64 := by omega
  rw [unseparated?, hread]
  simp only [word?, hnumeral, Option.filter_some, decide_eq_true_eq, hlimit]
  split <;> rfl

/-- Neither separators nor the mark of a big integer are left to be looked at. -/
theorem value?_of_filter {text rest : List Char} (hfilter : text.filter (· != '_') = rest)
    (h : ∀ c ∈ rest, c ≠ 'n') : value? (String.ofList text) = unseparated? rest := by
  have hlast : rest.getLast? ≠ some 'n' := fun hlast => h 'n' (List.mem_of_getLast? hlast) rfl
  rw [value?, String.toList_ofList, hfilter]
  exact if_neg hlast

variable {n : Nat} {text : List Char}

theorem value?_of_spelling (h : Spells n base text) :
    value? (String.ofList text) = if base = 10 ∨ n < 2 ^ 64 then some (ofNat n) else none := by
  cases h with
  | decimal h hzero =>
      obtain @⟨groups, digits, hgroups, hnonempty, hdigits, hbase, rfl⟩ := h
      have hchars := ne_of_writes hdigits hbase (by decide)
      have hfilter := filter_intercalate fun c hc => (hchars c hc).1
      have hfirst : groups.flatten = ['0'] ∨ groups.flatten.head? ≠ some '0' := by
        rcases hzero with htext | hhead
        · left
          rw [← hfilter, htext]
          rfl
        · right
          rwa [← head?_intercalate hgroups]
      rw [value?_of_filter hfilter fun c hc => (hchars c hc).2,
        unseparated?_of_decimal_digits hnonempty hdigits hbase hfirst, if_pos (.inl rfl)]
  | @based letter _ _ hletter h =>
      obtain @⟨groups, digits, hgroups, hnonempty, hdigits, hbase, rfl⟩ := h
      obtain ⟨-, hseparator, hbig, hten, hsmall⟩ := base?_of_mem hletter
      have hchars := ne_of_writes hdigits hbase hsmall
      have hfilter : ('0' :: letter :: ['_'].intercalate groups).filter (· != '_') =
          '0' :: letter :: groups.flatten := by
        rw [List.filter_cons_of_pos (by decide),
          List.filter_cons_of_pos (by simpa using hseparator),
          filter_intercalate fun c hc => (hchars c hc).1]
      have hmark : ∀ c ∈ '0' :: letter :: groups.flatten, c ≠ 'n' :=
        List.forall_mem_cons.mpr ⟨by decide, List.forall_mem_cons.mpr
          ⟨hbig, fun c hc => (hchars c hc).2⟩⟩
      rw [value?_of_filter hfilter hmark,
        unseparated?_of_based_digits hletter hnonempty hdigits hbase]
      simp only [hten, false_or]

/-- Every spelling of an integer is read as the double nearest to the integer, and the literal is
that number, if it has no prefix or the integer is less than `2 ^ 64`. With a prefix, what is larger
is no number at all. -/
theorem nearest_of_spells (h : Spells n base text) :
    (∀ x, IsNearest n x ↔ x = ofNat n) ∧
      value? (String.ofList text) = (if base = 10 ∨ n < 2 ^ 64 then some (ofNat n) else none) ∧
      (Node.leaf .number (String.ofList text)).toExpr =
        if base = 10 ∨ n < 2 ^ 64 then .number (ofNat n) else .other "number" := by
  have hvalue := value?_of_spelling h
  refine ⟨fun x => Binary64.isNearest_iff, hvalue, ?_⟩
  rw [Node.toExpr, hvalue]
  split <;> rfl

/-- Fifteen times seventeen in letters of either case and with a separator, and in decimal. -/
theorem nearest_of_spells_mixed :
    (Spells 255 16 "0XF_f".toList ∧ value? "0XF_f" = some (ofNat 255)) ∧
      Spells 255 10 "2_55".toList ∧ value? "2_55" = some (ofNat 255) := by
  have hbased : Spells 255 16 ('0' :: 'X' :: ['_'].intercalate [['F'], ['f']]) := by
    have hdigits : List.Forall₂ WritesDigit [['F'], ['f']].flatten [15, 15] :=
      .cons (.inr rfl) (.cons (.inl rfl) .nil)
    exact .based (by decide) (.intro (by decide) (by decide) hdigits (by decide) (by decide))
  have hdecimal : Spells 255 10 (['_'].intercalate [['2'], ['5', '5']]) := by
    have hdigits : List.Forall₂ WritesDigit [['2'], ['5', '5']].flatten [2, 5, 5] :=
      writes_digitChars [2, 5, 5]
    exact .decimal (.intro (by decide) (by decide) hdigits (by decide) (by decide))
      (.inr (by decide))
  exact ⟨⟨hbased, (nearest_of_spells hbased).2.1⟩, hdecimal, (nearest_of_spells hdecimal).2.1⟩

/-- A prefix makes a difference from `2 ^ 64` on. -/
theorem not_nearest_of_spells :
    Spells (2 ^ 64) 10 "18446744073709551616".toList ∧
      Spells (2 ^ 64) 16 "0x10000000000000000".toList ∧
      value? "18446744073709551616" = some (ofNat (2 ^ 64)) ∧
      value? "0x10000000000000000" = none ∧
      declared "const o = \x7ba: 18446744073709551616\x7d" =
        .ok (some (.object [("a", .number (ofNat (2 ^ 64)))])) ∧
      declared "const o = \x7ba: 0x10000000000000000\x7d" = .ok (some (.object [("a", .null)])) ∧
      ¬∀ n base text, Spells n base text → value? (String.ofList text) = some (ofNat n) := by
  let decimal := [1, 8, 4, 4, 6, 7, 4, 4, 0, 7, 3, 7, 0, 9, 5, 5, 1, 6, 1, 6]
  let hexadecimal := 1 :: List.replicate 16 0
  have hdecimal : Spells (2 ^ 64) 10 (['_'].intercalate [decimal.map Nat.digitChar]) := by
    have hdigits : List.Forall₂ WritesDigit [decimal.map Nat.digitChar].flatten decimal :=
      List.flatten_singleton ▸ writes_digitChars decimal
    exact .decimal (.intro (by decide) (by decide) hdigits (by decide) (by decide))
      (.inr (by decide))
  have hbased :
      Spells (2 ^ 64) 16 ('0' :: 'x' :: ['_'].intercalate [hexadecimal.map Nat.digitChar]) := by
    have hdigits : List.Forall₂ WritesDigit [hexadecimal.map Nat.digitChar].flatten hexadecimal :=
      List.flatten_singleton ▸ writes_digitChars hexadecimal
    exact .based (by decide) (.intro (by decide) (by decide) hdigits (by decide) (by decide))
  have hnone : value? "0x10000000000000000" = none := by decide +kernel
  refine ⟨hdecimal, hbased, by decide +kernel, hnone, by decide +kernel, by decide +kernel,
    fun h => ?_⟩
  have hsome : value? "0x10000000000000000" = some (ofNat (2 ^ 64)) := h _ _ _ hbased
  rw [hnone] at hsome
  cases hsome

end SnippetBridge.TypeScript.Numeral
