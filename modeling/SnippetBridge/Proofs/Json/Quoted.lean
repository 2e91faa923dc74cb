import Mathlib.Data.List.Basic
import SnippetBridge.Json.Reader
import SnippetBridge.Proofs.Text.Quoted

/-!
Quoted strings read back. A string is escaped character by character, and the reader takes each
escaped character as a whole; so the closing quote is never mistaken, and two quoted strings at the
start of the same text are the same string.
-/

namespace SnippetBridge.Json

open Text

theorem numeral?_control :
    ∀ n < 32, numeral? 16 ['0', '0', Nat.digitChar (n / 16), Nat.digitChar (n % 16)] = some n := by
  decide

theorem stringRest_short {letter c : Char} (h : shortEscape? letter = some c) (more : List Char) :
    stringRest ('\\' :: letter :: more) =
      (stringRest more).map fun (text, rest) => (c :: text, rest) := by
  have hu : letter ≠ 'u' := by
    rintro rfl
    simp [shortEscape?] at h
  rw [stringRest]
  · rw [h]
    cases stringRest more <;> rfl
  · rintro a b c d rest rfl
    exact absurd rfl hu

theorem stringRest_control {c : Char} (h : c.toNat < 0x20) (more : List Char) :
    stringRest ('\\' :: 'u' :: '0' :: '0' :: Nat.digitChar (c.toNat / 16) ::
        Nat.digitChar (c.toNat % 16) :: more) =
      (stringRest more).map fun (text, rest) => (c :: text, rest) := by
  have hhigh : ¬(0xD800 ≤ c.toNat ∧ c.toNat < 0xDC00) := by omega
  have hlow : ¬(0xDC00 ≤ c.toNat ∧ c.toNat < 0xE000) := by omega
  rw [stringRest, numeral?_control c.toNat h]
  simp only [Option.bind_eq_bind, Option.bind_some, if_neg hhigh, if_neg hlow, Char.ofNat_toNat]
  cases stringRest more <;> rfl

theorem stringRest_plain {c : Char} (hquote : c ≠ '"') (hbackslash : c ≠ '\\')
    (h : ¬c.toNat < 0x20) (more : List Char) :
    stringRest (c :: more) = (stringRest more).map fun (text, rest) => (c :: text, rest) := by
  rw [stringRest]
  · rw [if_neg h]
    cases stringRest more <;> rfl
  · exact hquote
  · rintro a b d e rest rfl
    exact absurd rfl hbackslash
  · rintro d rest rfl
    exact absurd rfl hbackslash

/-- One escaped character is read as the character. -/
theorem stringRest_escape (c : Char) (more : List Char) :
    stringRest (Quoted.escape c ++ more) =
      (stringRest more).map fun (text, rest) => (c :: text, rest) := by
  unfold Quoted.escape
  split
  -- The escapes of a single letter.
  all_goals try exact stringRest_short rfl more
  rename_i hquote hbackslash _ _ _ _ _
  split
  · rename_i hcontrol
    exact stringRest_control hcontrol more
  · rename_i hplain
    exact stringRest_plain hquote hbackslash hplain more

/-- An escaped string is read as the string, up to the closing quote and no further. -/
theorem stringRest_encode (cs rest : List Char) :
    stringRest (Quoted.encode cs ++ '"' :: rest) = some (cs, rest) := by
  induction cs with
  | nil => rfl
  | cons c cs ih =>
      rw [Quoted.encode_cons, List.append_assoc, stringRest_escape, ih]
      rfl

/-- Where an escaped string ends can be seen from the text. -/
theorem encode_append_inj {cs ds rest rest' : List Char}
    (h : Quoted.encode cs ++ '"' :: rest = Quoted.encode ds ++ '"' :: rest') :
    cs = ds ∧ rest = rest' := by
  have hread := stringRest_encode cs rest
  rw [h, stringRest_encode ds rest', Option.some.injEq, Prod.mk.injEq] at hread
  exact ⟨hread.1.symm, hread.2.symm⟩

end SnippetBridge.Json
