import Mathlib.Algebra.Group.Nat.Defs
import Mathlib.Data.List.Basic
import Mathlib.Tactic.SplitIfs

/-!
The order of strings by their bytes. A string comes before another one in the order of the UTF-8
bytes exactly if it does in the order of the code points. The first byte of a character grows with
the character and tells how many bytes follow; these are the last digits of the character in base
64. So the bytes of two characters differ at a place where those of the smaller one are smaller, and
whatever follows does not count.
-/

namespace SnippetBridge.Text

/-- The bytes of a string, in UTF-8. -/
def bytes (s : String) : List UInt8 := s.toByteArray.data.toList

def codePoints (s : String) : List Nat := s.toList.map Char.toNat

theorem bytes_eq_flatMap (s : String) : bytes s = s.toList.flatMap String.utf8EncodeChar := by
  rw [bytes, ← String.ofList_toList (s := s), String.toByteArray_ofList, List.utf8Encode]
  simp [List.data_toByteArray]

/-! ### Characters -/

namespace Utf8

/-- How many bytes follow the first one of a code point. -/
def following (v : Nat) : Nat :=
  if v ≤ 0x7f then 0 else if v ≤ 0x7ff then 1 else if v ≤ 0xffff then 2 else 3

/-- The first byte of a code point. -/
def leading (v : Nat) : Nat :=
  if v ≤ 0x7f then v
  else if v ≤ 0x7ff then v / 64 + 0xc0
  else if v ≤ 0xffff then v / 4096 + 0xe0
  else v / 262144 + 0xf0

/-- The last digits of a number in base 64, as bytes that do not come first. -/
def trailing : Nat → Nat → List UInt8
  | 0, _ => []
  | count + 1, v => trailing count (v / 64) ++ [UInt8.ofNat (v % 64 + 0x80)]

theorem toNat_lt (c : Char) : c.toNat < 0x110000 := by
  have hvalid : c.toNat < 0xd800 ∨ 0xdfff < c.toNat ∧ c.toNat < 0x110000 := c.valid
  omega

theorem utf8EncodeChar_eq (c : Char) :
    String.utf8EncodeChar c =
      UInt8.ofNat (leading c.toNat) :: trailing (following c.toNat) c.toNat := by
  have hmax := toNat_lt c
  have hv : c.val.toNat = c.toNat := rfl
  simp only [String.utf8EncodeChar, leading, following, hv]
  split_ifs with h₁ h₂ h₃
  · rfl
  · have hfirst : c.toNat / 64 % 32 = c.toNat / 64 := by omega
    simp [trailing, hfirst]
  · have hfirst : c.toNat / 4096 % 16 = c.toNat / 4096 := by omega
    simp [trailing, hfirst]
  · have hfirst : c.toNat / 262144 % 8 = c.toNat / 262144 := by omega
    have hsecond : c.toNat / 64 / 64 = c.toNat / 4096 := by omega
    simp [trailing, hfirst, hsecond]

theorem leading_lt {v : Nat} (h : v < 0x110000) : leading v < 256 := by
  simp only [leading]
  split_ifs <;> omega

/-- First bytes are in the order of the code points. Where they are the same, as many bytes follow
either of them, and the code points differ in these only. -/
theorem leading_cases {v w : Nat} (h : v < w) :
    leading v < leading w ∨
      leading v = leading w ∧ following v = following w ∧
        v / 64 ^ following v = w / 64 ^ following v := by
  simp only [leading, following]
  split_ifs <;> omega

theorem ofNat_lt {m n : Nat} (h : m < n) (hn : n < 256) : UInt8.ofNat m < UInt8.ofNat n := by
  rw [UInt8.lt_iff_toNat_lt, UInt8.toNat_ofNat', UInt8.toNat_ofNat']
  omega

/-- Numbers that are the same up to their last digits are in the order of these digits. -/
theorem trailing_append_lt {v w count : Nat} (h : v < w)
    (hfront : v / 64 ^ count = w / 64 ^ count) (s t : List UInt8) :
    trailing count v ++ s < trailing count w ++ t := by
  induction count generalizing v w s t with
  | zero =>
      rw [Nat.pow_zero, Nat.div_one, Nat.div_one] at hfront
      omega
  | succ count ih =>
      rw [Nat.pow_succ', ← Nat.div_div_eq_div_mul, ← Nat.div_div_eq_div_mul] at hfront
      rw [trailing, trailing, List.append_assoc, List.append_assoc]
      rcases Nat.lt_or_eq_of_le (Nat.div_le_div_right (c := 64) (Nat.le_of_lt h)) with hless | hsame
      · exact ih hless hfront _ _
      · have hlast : UInt8.ofNat (v % 64 + 0x80) < UInt8.ofNat (w % 64 + 0x80) :=
          ofNat_lt (by omega) (by omega)
        rw [hsame]
        exact List.append_left_lt (List.cons_lt_cons_iff.mpr (.inl hlast))

/-- The bytes of a smaller character come first, whatever follows them. -/
theorem utf8EncodeChar_append_lt {c d : Char} (h : c < d) (s t : List UInt8) :
    String.utf8EncodeChar c ++ s < String.utf8EncodeChar d ++ t := by
  have hpoints : c.toNat < d.toNat := h
  rw [utf8EncodeChar_eq, utf8EncodeChar_eq, List.cons_append, List.cons_append,
    List.cons_lt_cons_iff]
  rcases leading_cases hpoints with hless | ⟨hsame, hcount, hfront⟩
  · exact .inl (ofNat_lt hless (leading_lt (toNat_lt d)))
  · rw [hsame, ← hcount]
    exact .inr ⟨rfl, trailing_append_lt hpoints hfront s t⟩

end Utf8

/-! ### Strings -/

section

variable {β : Type} [LT β] {code : Char → List β} {cs ds : List Char}

theorem flatMap_lt_of_lt (hne : ∀ c, code c ≠ [])
    (hcode : ∀ c d, c < d → ∀ s t, code c ++ s < code d ++ t) (h : cs < ds) :
    cs.flatMap code < ds.flatMap code := by
  induction h with
  | @nil d ds =>
      obtain ⟨b, bs, hcons⟩ := List.exists_cons_of_ne_nil (hne d)
      rw [List.flatMap_nil, List.flatMap_cons, hcons]
      exact List.nil_lt_cons _ _
  | rel hless =>
      rw [List.flatMap_cons, List.flatMap_cons]
      exact hcode _ _ hless _ _
  | cons _ ih =>
      rw [List.flatMap_cons, List.flatMap_cons]
      exact List.append_left_lt ih

/-- Coding a text keeps its place in the order, if the code of a smaller character comes first
whatever follows it. -/
theorem flatMap_lt_iff [Std.Asymm fun a b : β => a < b] (hne : ∀ c, code c ≠ [])
    (hcode : ∀ c d, c < d → ∀ s t, code c ++ s < code d ++ t) :
    cs.flatMap code < ds.flatMap code ↔ cs < ds := by
  refine ⟨fun h => ?_, flatMap_lt_of_lt hne hcode⟩
  by_contra hnot
  rcases List.le_iff_lt_or_eq.mp (List.not_lt.mp hnot) with hless | rfl
  · exact List.lt_asymm h (flatMap_lt_of_lt hne hcode hless)
  · exact List.lt_irrefl _ h

end

theorem bytes_lt_iff {a b : String} : bytes a < bytes b ↔ a < b := by
  rw [bytes_eq_flatMap, bytes_eq_flatMap, String.lt_iff]
  exact flatMap_lt_iff (by simp [Utf8.utf8EncodeChar_eq]) fun _ _ => Utf8.utf8EncodeChar_append_lt

theorem codePoints_lt_iff {a b : String} : codePoints a < codePoints b ↔ a < b := by
  rw [codePoints, codePoints, List.map_eq_flatMap, List.map_eq_flatMap, String.lt_iff]
  exact flatMap_lt_iff (by simp) fun _ _ hless _ _ => List.cons_lt_cons_iff.mpr (.inl hless)

end SnippetBridge.Text
