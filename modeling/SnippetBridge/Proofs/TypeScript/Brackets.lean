import SnippetBridge.Proofs.TypeScript.Integers
import SnippetBridge.Proofs.TypeScript.NumberNames
import SnippetBridge.Proofs.TypeScript.Sugar

/-!
Literals in brackets as keys. A string is the same key in brackets as without them. A number in
brackets is a key as it is spelled, but without them it is the key of the number that it denotes. So
of the spellings of a number there is one for which the brackets do not count, its key: digits with
a point or without, and neither a prefix nor a separator nor an exponent.
-/

namespace SnippetBridge.TypeScript

namespace Numeral

open Binary64 (Representable ofDecimal ofNat ofUnsigned? one)

/-- A literal that is spelled as the key that it is, or that denotes no number. -/
def IsKept (literal : String) : Prop := ∀ x, value? literal = some x → key x = literal

/-! ### Numbers that literals denote -/

theorem exists_of_ofUnsigned? {negative : Bool} {text : List Char} {x : Binary64}
    (h : ofUnsigned? negative text = some x) : ∃ s e, x = ofDecimal negative s e := by
  unfold ofUnsigned? at h
  dsimp only at h
  -- With a point or without, the digits are followed by an exponent or by nothing.
  split at h
  all_goals
    split at h
    · contradiction
    · obtain ⟨e, -, rfl⟩ := Option.map_eq_some_iff.mp h
      exact ⟨_, _, rfl⟩

theorem exists_of_unseparated? {text : List Char} {x : Binary64} (h : unseparated? text = some x) :
    ∃ s e, x = ofDecimal false s e := by
  unfold unseparated? at h
  split at h
  · split at h
    · obtain ⟨n, -, rfl⟩ := Option.map_eq_some_iff.mp h
      exact ⟨n, 0, (ofDecimal_zero n).symm⟩
    · exact exists_of_ofUnsigned? h
  · exact exists_of_ofUnsigned? h

/-- A literal has no sign. -/
theorem cases_of_value? {literal : String} {x : Binary64} (h : value? literal = some x) :
    x = .infinite false ∨ ∃ units hrep, x = .finite false units hrep := by
  rw [value?] at h
  split at h
  · contradiction
  · obtain ⟨s, e, rfl⟩ := exists_of_unseparated? h
    rw [Binary64.ofDecimal_eq]
    split
    · rename_i hrep
      exact .inr ⟨_, hrep, rfl⟩
    · exact .inl rfl

/-! ### Keys as literals -/

theorem base?_of_isDigit_or {c : Char} (h : c.isDigit ∨ c = '.') : base? c = none := by
  unfold base?
  split <;> simp at h ⊢

/-- Digits and a point are read as they stand. -/
theorem value?_of_digits {cs : List Char} (h : ∀ c ∈ cs, c.isDigit ∨ c = '.') :
    value? (String.ofList cs) = ofUnsigned? false cs := by
  have hother {c d : Char} (hd : d.isDigit = false ∧ d ≠ '.') (hc : c ∈ cs) : c ≠ d := by
    rintro rfl
    rcases h c hc with hdigit | hpoint
    · exact absurd hdigit (ne_true_of_eq_false hd.1)
    · exact hd.2 hpoint
  have hfilter : cs.filter (· != '_') = cs :=
    List.filter_eq_self.mpr fun c hc => by simpa using hother (by decide) hc
  rw [value?_of_filter hfilter fun c hc => hother (by decide) hc]
  unfold unseparated?
  split
  · rename_i letter digits
    rw [base?_of_isDigit_or (h letter (by simp))]
  · rfl

variable {units : Nat}

theorem isDigit_or_of_mem_key (hrep : Representable units) {c : Char}
    (hc : c ∈ (key (.finite false units hrep)).toList) : c.isDigit ∨ c = '.' := by
  by_cases h : units % one = 0 ∧ units < 1000000000000000000000 * one
  · rw [toList_key_of_integer hrep h] at hc
    exact .inl (Nat.isDigit_of_mem_toDigits (by decide) (by decide) hc)
  · obtain ⟨first, rest, htext, hfirst, hrest⟩ := Binary64.magnitudeText_eq_cons units
    rw [toList_key_of_not_integer hrep h, htext] at hc
    rcases List.mem_cons.mp hc with rfl | hc
    · exact .inl hfirst
    · exact hrest c hc

/-- The key of a number denotes the number. -/
theorem value?_key (hrep : Representable units) :
    value? (key (.finite false units hrep)) = some (.finite false units hrep) := by
  have hdigits : ∀ c ∈ (key (.finite false units hrep)).toList, c.isDigit ∨ c = '.' :=
    fun _ hc => isDigit_or_of_mem_key hrep hc
  rw [← String.ofList_toList (s := key _), value?_of_digits hdigits]
  by_cases h : units % one = 0 ∧ units < 1000000000000000000000 * one
  · have hisDigit : ∀ c ∈ Nat.toDigits 10 (units / one), c.isDigit :=
      fun _ hc => Nat.isDigit_of_mem_toDigits (by decide) (by decide) hc
    rw [toList_key_of_integer hrep h, ofUnsigned?_of_isDigit Nat.toDigits_ne_nil hisDigit,
      Nat.ofDigitChars_ten_toDigits, ofNat, Nat.div_mul_cancel (Nat.dvd_of_mod_eq_zero h.1),
      Binary64.ofRatio_one_of_representable false hrep]
  · rw [toList_key_of_not_integer hrep h, Binary64.ofUnsigned?_magnitudeText hrep]

theorem isKept_key (hrep : Representable units) : IsKept (key (.finite false units hrep)) := by
  intro x hx
  rw [value?_key hrep] at hx
  rw [← Option.some.inj hx]

/-- Of the spellings of a number exactly one is kept. -/
theorem existsUnique_isKept (hrep : Representable units) :
    ∃! literal, value? literal = some (.finite false units hrep) ∧ IsKept literal :=
  ⟨_, ⟨value?_key hrep, isKept_key hrep⟩, fun _ hliteral => (hliteral.2 _ hliteral.1).symm⟩

/-- The digits of an integer are kept if the integer is a double. -/
theorem isKept_repr {n : Nat} (hrep : Representable (n * one)) (hn : n < 10 ^ 21) :
    IsKept n.repr := by
  have hpos := Binary64.one_pos
  have hinteger : n * one % one = 0 ∧ n * one < 1000000000000000000000 * one :=
    ⟨Nat.mul_mod_left n one, Nat.mul_lt_mul_of_pos_right hn hpos⟩
  have hkey : key (.finite false (n * one) hrep) = n.repr := by
    rw [← String.toList_inj, toList_key_of_integer hrep hinteger, Nat.mul_div_cancel n hpos,
      Nat.repr, String.toList_ofList]
  rw [← hkey]
  exact isKept_key hrep

theorem isDigit_or_of_isKept {literal : String} {x : Binary64} (hvalue : value? literal = some x)
    (hkept : IsKept literal) : ∀ c ∈ literal.toList, c.isDigit ∨ c = '.' := by
  have hkey := hkept x hvalue
  rcases cases_of_value? hvalue with rfl | ⟨units, hrep, rfl⟩
  · -- The key of infinity is a word, which no literal is.
    rw [← hkey, show value? (key (.infinite false)) = none by decide] at hvalue
    contradiction
  · rw [← hkey]
    exact fun c hc => isDigit_or_of_mem_key hrep hc

end Numeral

namespace Node

/-! ### Brackets -/

/-- A name that has a node in brackets, with blanks and comments around it or without. -/
structure InBrackets (inner name : Node) : Prop where
  kind : name.kind = .computedPropertyName
  inner : firstPart? name.children = some inner

/-- The name that is a node in brackets and nothing else. -/
def bracketed (inner : Node) : Node :=
  .branch .computedPropertyName [mark "[", (.plain, inner), mark "]"]

theorem inBrackets_bracketed {inner : Node} (h : inner.kind.isPart) :
    InBrackets inner (bracketed inner) := by
  refine ⟨rfl, ?_⟩
  have hmark : Kind.mark.isPart = false := rfl
  simp [bracketed, firstPart?, hmark, h]

variable {literal name key key' : Node}

theorem propertyKey_of_string (hliteral : literal.kind = .string)
    (hname : InBrackets literal name) : name.propertyKey = literal.propertyKey := by
  simp only [propertyKey, hname.kind, hname.inner, hliteral, if_true]

theorem propertyKey_of_number (hliteral : literal.kind = .number)
    (hname : InBrackets literal name) :
    name.propertyKey = literal.propertyKey ↔ Numeral.IsKept literal.text := by
  have hspelled : name.propertyKey = literal.text := by
    simp [propertyKey, hname.kind, hname.inner, hliteral]
  rw [hspelled]
  simp only [propertyKey, hliteral, Numeral.IsKept]
  cases Numeral.value? literal.text with
  | none => simp
  | some x => simp [eq_comm]

theorem propertyKey_inBrackets_iff (hliteral : literal.kind = .string ∨ literal.kind = .number)
    (hname : InBrackets literal name) :
    name.propertyKey = literal.propertyKey ↔
      (literal.kind = .number → Numeral.IsKept literal.text) := by
  rcases hliteral with hstring | hnumber
  · simp [propertyKey_of_string hstring hname, hstring]
  · rw [propertyKey_of_number hnumber hname]
    simp only [hnumber, true_imp_iff]

/-- Properties of an object literal, or of an object pattern, that differ in their keys only. -/
inductive Rekeyed (key key' : Node) : Place → Node → Node → Prop where
  | pair (front rest : List (Role × Node)) {value : Node} (hfirst : childAs? .key front = none)
      (hvalue : childAs? .value (front ++ rest) = some value) :
      Rekeyed key key' .property (.branch .pair (front ++ (.key, key) :: rest))
        (.branch .pair (front ++ (.key, key') :: rest))
  | method (front rest : List (Role × Node)) (hfirst : childAs? .name front = none) :
      Rekeyed key key' .property (.branch .methodDefinition (front ++ (.name, key) :: rest))
        (.branch .methodDefinition (front ++ (.name, key') :: rest))
  | pattern (front rest : List (Role × Node)) (hfirst : childAs? .key front = none) :
      Rekeyed key key' .propertyPattern (.branch .pairPattern (front ++ (.key, key) :: rest))
        (.branch .pairPattern (front ++ (.key, key') :: rest))

theorem childAs?_of_front {role : Role} {front : List (Role × Node)}
    (hfirst : childAs? role front = none) (node : Node) (rest : List (Role × Node)) :
    childAs? role (front ++ (role, node) :: rest) = some node := by
  rw [childAs?, Option.map_eq_none_iff] at hfirst
  simp [childAs?, List.find?_append, hfirst]

/-- Of keys nothing counts but what they are as keys. -/
theorem reading_rekeyed_iff {place : Place} {node node' : Node}
    (h : Rekeyed key key' place node node') :
    place.reading node = place.reading node' ↔ key.propertyKey = key'.propertyKey := by
  cases h with
  | @pair front rest value hfirst hvalue =>
      have hread (key : Node) :
          properties [(.plain, .branch .pair (front ++ (.key, key) :: rest))] =
            [(key.propertyKey, value.toExpr)] := by
        simp only [properties, exprAs?_eq_map, childAs?_of_front hfirst,
          childAs?_insert front rest (show Role.key ≠ .value by decide), hvalue, Option.map_some]
      rw [Place.reading_branch rfl, Place.reading_branch rfl, Place.readingOf, Place.readingOf,
        hread, hread]
      simp
  | method front rest hfirst =>
      have hread (key : Node) :
          properties [(.plain, .branch .methodDefinition (front ++ (.name, key) :: rest))] =
            [(key.propertyKey, .other Kind.methodDefinition.name)] := by
        simp only [properties, childAs?_of_front hfirst]
      rw [Place.reading_branch rfl, Place.reading_branch rfl, Place.readingOf, Place.readingOf,
        hread, hread]
      simp
  | pattern front rest hfirst =>
      rw [Place.reading_branch rfl, Place.reading_branch rfl, Place.readingOf, Place.readingOf]
      simp only [propertyPatterns, patternAs?_eq_map, childAs?_of_front hfirst,
        childAs?_insert front rest (show Role.key ≠ .value by decide)]
      simp

/-- Brackets around a string do not count, neither in an object literal nor in an object pattern.
Brackets around a number do not count exactly if it is spelled as its key. So they do not count for
the digits of an integer that is a double, and they count for whatever has anything but digits and a
point in it. -/
theorem propertyKey_inBrackets (hliteral : literal.kind = .string ∨ literal.kind = .number)
    (hname : InBrackets literal name) :
    (name.propertyKey = literal.propertyKey ↔
        (literal.kind = .number → Numeral.IsKept literal.text)) ∧
      (∀ place node node', Rekeyed literal name place node node' →
        (place.reading node = place.reading node' ↔
          (literal.kind = .number → Numeral.IsKept literal.text))) ∧
      (∀ n, Binary64.Representable (n * Binary64.one) → n < 10 ^ 21 → literal.text = n.repr →
        name.propertyKey = literal.propertyKey) ∧
      ∀ x, literal.kind = .number → Numeral.value? literal.text = some x →
        (∃ c ∈ literal.text.toList, ¬(c.isDigit ∨ c = '.')) →
        name.propertyKey ≠ literal.propertyKey := by
  have hkey := propertyKey_inBrackets_iff hliteral hname
  refine ⟨hkey, fun place node node' h => ?_, fun n hrep hn htext => ?_,
    fun x hnumber hvalue ⟨c, hc, hother⟩ hsame => ?_⟩
  · rw [reading_rekeyed_iff h, eq_comm, hkey]
  · exact hkey.mpr fun _ => htext ▸ Numeral.isKept_repr hrep hn
  · exact hother (Numeral.isDigit_or_of_isKept hvalue (hkey.mp hsame hnumber) c hc)

/-- Sixteen in decimal, in brackets and without, as the key in an object literal. -/
theorem propertyKey_inBrackets_decimal :
    InBrackets (.leaf .number "16") (bracketed (.leaf .number "16")) ∧
      (bracketed (.leaf .number "16")).propertyKey = (Node.leaf .number "16").propertyKey ∧
      Place.property.reading (.branch .pair
          [(.key, .leaf .number "16"), mark ":", (.value, .leaf .trueLiteral "true")]) =
        Place.property.reading (.branch .pair
          [(.key, bracketed (.leaf .number "16")), mark ":",
            (.value, .leaf .trueLiteral "true")]) := by
  have hname : InBrackets (.leaf .number "16") (bracketed (.leaf .number "16")) :=
    inBrackets_bracketed rfl
  have hkept : Numeral.IsKept "16" :=
    Numeral.isKept_repr (Binary64.representable_mul_one (by decide)) (show 16 < 10 ^ 21 by decide)
  obtain ⟨hkey, hreading, -, -⟩ := propertyKey_inBrackets (.inr rfl) hname
  exact ⟨hname, hkey.mpr fun _ => hkept,
    (hreading _ _ _ (.pair [] _ rfl rfl)).mpr fun _ => hkept⟩

/-- Sixteen in hexadecimal is another key in brackets. -/
theorem propertyKey_inBrackets_hexadecimal :
    InBrackets (.leaf .number "0x10") (bracketed (.leaf .number "0x10")) ∧
      (bracketed (.leaf .number "0x10")).propertyKey = "0x10" ∧
      (Node.leaf .number "0x10").propertyKey = "16" ∧
      declared "const o = \x7b[0x10]: true\x7d" = .ok (some (.object [("0x10", .bool true)])) ∧
      declared "const o = \x7b0x10: true\x7d" = .ok (some (.object [("16", .bool true)])) ∧
      declared "function f(\x7b[0x10]: x\x7d) \x7b\x7d" = .ok (some (.object [("0x10", .null)])) ∧
      declared "function f(\x7b0x10: x\x7d) \x7b\x7d" = .ok (some (.object [("16", .null)])) ∧
      ¬∀ literal name : Node, literal.kind = .string ∨ literal.kind = .number →
        InBrackets literal name → name.propertyKey = literal.propertyKey := by
  have hname : InBrackets (.leaf .number "0x10") (bracketed (.leaf .number "0x10")) :=
    inBrackets_bracketed rfl
  have hkeys : (bracketed (.leaf .number "0x10")).propertyKey = "0x10" ∧
      (Node.leaf .number "0x10").propertyKey = "16" := by
    decide +kernel
  refine ⟨hname, hkeys.1, hkeys.2, by decide +kernel, by decide +kernel, by decide +kernel,
    by decide +kernel, fun h => ?_⟩
  have hsame := h _ _ (.inr rfl) hname
  rw [hkeys.1, hkeys.2] at hsame
  exact absurd hsame (by decide)

end Node

end SnippetBridge.TypeScript
