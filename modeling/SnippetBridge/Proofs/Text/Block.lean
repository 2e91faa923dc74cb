import Mathlib.Data.List.Basic
import SnippetBridge.Text.Block

/-!
Where the items of a block end. An item is followed by a line end, with a comma in front of it or
not, or the text is at its end. If that is enough to tell items apart then it is enough to tell
blocks apart: the two characters behind an opening bracket show whether there are items, and the
character behind an item shows whether there is another one.
-/

namespace SnippetBridge.Text

/-- What can follow an item. -/
def EndsItem (rest : List Char) : Prop :=
  rest = [] ∨ (∃ more, rest = '\n' :: more) ∨ ∃ more, rest = ',' :: '\n' :: more

theorem endsItem_nil : EndsItem [] := .inl rfl

theorem endsItem_newline (rest : List Char) : EndsItem ('\n' :: rest) := .inr (.inl ⟨rest, rfl⟩)

theorem endsItem_comma (rest : List Char) : EndsItem (',' :: '\n' :: rest) :=
  .inr (.inr ⟨rest, rfl⟩)

theorem EndsItem.eq_of_cons {c : Char} {rest : List Char} (h : EndsItem (c :: rest)) :
    c = ',' ∨ c = '\n' := by
  rcases h with h | ⟨more, h⟩ | ⟨more, h⟩
  · cases h
  · exact .inr (List.cons.inj h).1
  · exact .inl (List.cons.inj h).1

/-- Tokens without commas and line ends are told apart by what can follow them. -/
theorem token_append_inj {s t rest rest' : List Char} (hs : ∀ c ∈ s, c ≠ ',' ∧ c ≠ '\n')
    (ht : ∀ c ∈ t, c ≠ ',' ∧ c ≠ '\n') (hrest : EndsItem rest) (hrest' : EndsItem rest')
    (h : s ++ rest = t ++ rest') : s = t ∧ rest = rest' := by
  induction s generalizing t with
  | nil =>
      cases t with
      | nil => exact ⟨rfl, h⟩
      | cons d t =>
          have hd := List.forall_mem_cons.mp ht
          rw [List.nil_append] at h
          subst h
          rcases hrest.eq_of_cons with rfl | rfl
          · exact absurd rfl hd.1.1
          · exact absurd rfl hd.1.2
  | cons c s ih =>
      obtain ⟨hc, hs⟩ := List.forall_mem_cons.mp hs
      cases t with
      | nil =>
          rw [List.nil_append] at h
          subst h
          rcases hrest'.eq_of_cons with rfl | rfl
          · exact absurd rfl hc.1
          · exact absurd rfl hc.2
      | cons d t =>
          rw [List.cons_append, List.cons_append, List.cons.injEq] at h
          obtain ⟨hst, hrests⟩ := ih hs (List.forall_mem_cons.mp ht).2 h.2
          exact ⟨by rw [h.1, hst], hrests⟩

/-! ### Lines -/

/-- A text up to its first line end. -/
def firstLine (text : List Char) : List Char := text.takeWhile (· != '\n')

theorem firstLine_append {s : List Char} (hs : '\n' ∉ s) (t : List Char) :
    firstLine (s ++ t) = s ++ firstLine t :=
  List.takeWhile_append_of_pos fun c hc => by simpa using ne_of_mem_of_not_mem hc hs

theorem firstLine_newline (rest : List Char) : firstLine ('\n' :: rest) = [] := rfl

theorem EndsItem.firstLine_eq {rest : List Char} (h : EndsItem rest) :
    firstLine rest = [] ∨ firstLine rest = [','] := by
  rcases h with rfl | ⟨more, rfl⟩ | ⟨more, rfl⟩
  · exact .inl rfl
  · exact .inl rfl
  · exact .inr rfl

/-- A block shows its opening bracket on its first line; only an empty block shows more. -/
theorem mem_firstLine_block {opening closing rest : List Char} {items : List (List Char)}
    {depth : Nat} (hopening : '\n' ∉ opening) (hclosing : '\n' ∉ closing) {c : Char}
    (hc : c ∈ firstLine (block opening closing items depth ++ rest)) :
    c ∈ opening ∨ c ∈ closing ∨ c ∈ firstLine rest := by
  rw [block] at hc
  split at hc
  · rw [List.append_assoc, firstLine_append hopening, firstLine_append hclosing] at hc
    simpa using hc
  · simp only [List.append_assoc, firstLine_append hopening, List.cons_append,
      firstLine_newline, List.append_nil] at hc
    exact .inl hc

/-! ### Rows of items -/

variable {α : Type} {text : α → List Char} {R : α → α → Prop}

/-- The texts of items of `xs` and `ys` can be told apart, up to `R`. -/
def Distinct (text : α → List Char) (R : α → α → Prop) (xs ys : List α) : Prop :=
  ∀ x ∈ xs, ∀ y ∈ ys, ∀ rest rest', EndsItem rest → EndsItem rest' →
    text x ++ rest = text y ++ rest' → R x y ∧ rest = rest'

theorem separated_cons_cons (separator item next : List Char) (rest : List (List Char)) :
    separated separator (item :: next :: rest) =
      item ++ (separator ++ separated separator (next :: rest)) := by
  rw [separated, List.append_assoc]
  simp

theorem separated_append_inj {margin rest rest' : List Char} {xs ys : List α}
    (hitems : Distinct text R xs ys) (hxs : xs ≠ []) (hys : ys ≠ [])
    (h : separated (',' :: '\n' :: margin) (xs.map text) ++ '\n' :: rest =
      separated (',' :: '\n' :: margin) (ys.map text) ++ '\n' :: rest') :
    List.Forall₂ R xs ys ∧ rest = rest' := by
  induction xs generalizing ys with
  | nil => exact absurd rfl hxs
  | cons x xs ih =>
      obtain ⟨y, ys, rfl⟩ := List.exists_cons_of_ne_nil hys
      have hitem := hitems x List.mem_cons_self y List.mem_cons_self
      -- A line end follows the last item only, so both rows end together.
      cases xs with
      | nil =>
          cases ys with
          | nil =>
              obtain ⟨hxy, hrest⟩ := hitem _ _ (endsItem_newline _) (endsItem_newline _) h
              exact ⟨.cons hxy .nil, (List.cons.inj hrest).2⟩
          | cons y' ys =>
              simp only [List.map_cons, separated_cons_cons, List.append_assoc] at h
              obtain ⟨-, hrest⟩ := hitem _ _ (endsItem_newline _) (endsItem_comma _) h
              simp at hrest
      | cons x' xs =>
          cases ys with
          | nil =>
              simp only [List.map_cons, separated_cons_cons, List.append_assoc] at h
              obtain ⟨-, hrest⟩ := hitem _ _ (endsItem_comma _) (endsItem_newline _) h
              simp at hrest
          | cons y' ys =>
              simp only [List.map_cons, separated_cons_cons, List.append_assoc] at h
              obtain ⟨hxy, hrest⟩ := hitem _ _ (endsItem_comma _) (endsItem_comma _) h
              have htail := (List.append_right_inj (',' :: '\n' :: margin)).mp hrest
              obtain ⟨hmore, hrest⟩ := ih (fun a ha b hb => hitems a (List.mem_cons_of_mem x ha) b
                (List.mem_cons_of_mem y hb)) (by simp) (by simp) htail
              exact ⟨.cons hxy hmore, hrest⟩

/-- Blocks of items that can be told apart can be told apart themselves. -/
theorem block_append_inj {opening rest rest' : List Char} {closing : Char} {depth : Nat}
    {xs ys : List α} (hclosing : closing ≠ '\n') (hitems : Distinct text R xs ys)
    (h : block opening [closing] (xs.map text) depth ++ rest =
      block opening [closing] (ys.map text) depth ++ rest') :
    List.Forall₂ R xs ys ∧ rest = rest' := by
  cases xs with
  | nil =>
      cases ys with
      | nil => simpa [block] using h
      | cons y ys => simp [block, hclosing] at h
  | cons x xs =>
      cases ys with
      | nil => simp [block, hclosing.symm] at h
      | cons y ys =>
          have hlines : separated (',' :: '\n' :: indentation (depth + 1)) ((x :: xs).map text) ++
              '\n' :: (indentation depth ++ closing :: rest) =
                separated (',' :: '\n' :: indentation (depth + 1)) ((y :: ys).map text) ++
                  '\n' :: (indentation depth ++ closing :: rest') := by
            simpa [block] using h
          obtain ⟨hall, hrest⟩ := separated_append_inj hitems (by simp) (by simp) hlines
          exact ⟨hall, (List.cons.inj (List.append_cancel_left hrest)).2⟩

end SnippetBridge.Text
