import Mathlib.Data.List.Basic
import SnippetBridge.Text.Quoted

/-!
What a quoted string looks like from outside. It stands on one line, and a blank inside of it is a
blank of the string, never a part of an escape; so what follows a blank up to the closing quote is a
quoted string again.
-/

namespace SnippetBridge.Text.Quoted

theorem encode_cons (c : Char) (cs : List Char) : encode (c :: cs) = escape c ++ encode cs :=
  List.flatMap_cons

theorem not_mem_escape_control :
    ∀ n < 32, ∀ c ∈ ['\\', 'u', '0', '0', Nat.digitChar (n / 16), Nat.digitChar (n % 16)],
      c ≠ '\n' ∧ c ≠ ' ' := by
  simp only [List.forall_mem_cons, List.not_mem_nil, false_implies, implies_true]
  decide

/-- A character stands for itself, or its escape has neither line ends nor blanks. -/
theorem escape_eq_or (c : Char) :
    (escape c = [c] ∧ c ≠ '\n') ∨ ∀ d ∈ escape c, d ≠ '\n' ∧ d ≠ ' ' := by
  unfold escape
  split
  case h_8 =>
    rename_i hnewline _ _
    split
    · rename_i hcontrol
      exact .inr (not_mem_escape_control c.toNat hcontrol)
    · exact .inl ⟨rfl, hnewline⟩
  -- The escapes of a single letter.
  all_goals exact .inr (by simp)

theorem newline_not_mem_encode (cs : List Char) : '\n' ∉ encode cs := by
  intro hmem
  obtain ⟨c, -, hc⟩ := List.mem_flatMap.mp hmem
  rcases escape_eq_or c with ⟨heq, hne⟩ | hall
  · rw [heq, List.mem_singleton] at hc
    exact hne hc.symm
  · exact (hall '\n' hc).1 rfl

/-- A blank is only ever written for itself. -/
theorem escape_eq_of_blank_mem {c : Char} {front back : List Char}
    (h : escape c = front ++ ' ' :: back) : back = [] := by
  have hblank : ' ' ∈ escape c := by simp [h]
  rcases escape_eq_or c with ⟨heq, -⟩ | hall
  · rw [heq] at h
    cases front with
    | nil => exact (List.cons.inj h).2.symm
    | cons d front => simp at h
  · exact absurd rfl (hall ' ' hblank).2

/-- What stands behind a blank of an escaped string is an escaped string. -/
theorem exists_of_encode_eq {cs front back : List Char} (h : encode cs = front ++ ' ' :: back) :
    ∃ ds, back = encode ds := by
  induction cs generalizing front with
  | nil => simp [encode] at h
  | cons c cs ih =>
      rw [encode_cons] at h
      rcases List.append_eq_append_iff.mp h with ⟨inner, hfront, hrest⟩ | ⟨inner, hescape, hrest⟩
      · exact ih hrest
      · cases inner with
        | nil =>
            have hblank : encode cs = [] ++ ' ' :: back := by simpa using hrest.symm
            exact ih hblank
        | cons d inner =>
            -- The blank belongs to the escape of `c`, and it is all of it.
            obtain ⟨rfl, hback⟩ := List.cons.inj hrest
            obtain rfl := escape_eq_of_blank_mem hescape
            exact ⟨cs, hback⟩

/-- What stands behind a blank of a quoted string is a quoted string without its first quote. -/
theorem exists_of_quoted_eq {cs front back tail : List Char} (htail : ' ' ∉ tail)
    (h : '"' :: (encode cs ++ '"' :: tail) = front ++ ' ' :: back) :
    ∃ ds, back = encode ds ++ '"' :: tail := by
  cases front with
  | nil => simp at h
  | cons d front =>
      obtain ⟨-, h⟩ := List.cons.inj h
      rcases List.append_eq_append_iff.mp h with ⟨inner, -, hrest⟩ | ⟨inner, hencode, hrest⟩
      · have hblank : ' ' ∈ '"' :: tail := by simp [hrest]
        simp [htail] at hblank
      · cases inner with
        | nil => simp at hrest
        | cons e inner =>
            obtain ⟨rfl, hback⟩ := List.cons.inj hrest
            obtain ⟨ds, rfl⟩ := exists_of_encode_eq hencode
            exact ⟨ds, hback⟩

end SnippetBridge.Text.Quoted
