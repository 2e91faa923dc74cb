import Mathlib.Data.List.Basic
import SnippetBridge.Text.Block

/-!
Blocks inside of blocks. A block knows the level that it stands at, but all that the level does is
to put blanks behind line ends: at a deeper level the whole text of a block, with the blocks inside
of it, is the same text with more blanks behind each of its line ends.
-/

namespace SnippetBridge.Text

/-- A text whose lines, from the second one on, are moved to the right by so many levels. -/
def shifted (levels : Nat) (text : List Char) : List Char :=
  text.flatMap fun c => if c = '\n' then '\n' :: indentation levels else [c]

/-- A text all of whose lines stand one level deeper. -/
def indented (text : List Char) : List Char := ' ' :: ' ' :: shifted 1 text

/-- Brackets on lines of their own, and between them indented texts with commas after all but the
last. -/
def framed (opening closing : List Char) (bodies : List (List Char)) : List Char :=
  opening ++ '\n' :: [',', '\n'].intercalate (bodies.map indented) ++ '\n' :: closing

variable {opening closing : List Char}

/-! ### Moving lines -/

theorem indentation_add (depth levels : Nat) :
    indentation (depth + levels) = indentation levels ++ indentation depth := by
  simp [indentation, Nat.mul_add, Nat.add_comm]

theorem shifted_append (levels : Nat) (s t : List Char) :
    shifted levels (s ++ t) = shifted levels s ++ shifted levels t :=
  List.flatMap_append

theorem shifted_newline (levels : Nat) (text : List Char) :
    shifted levels ('\n' :: text) = '\n' :: (indentation levels ++ shifted levels text) :=
  List.flatMap_cons

theorem shifted_cons {c : Char} (hc : c ≠ '\n') (levels : Nat) (text : List Char) :
    shifted levels (c :: text) = c :: shifted levels text := by
  simp [shifted, hc]

/-- What stands on one line stays as it is. -/
theorem shifted_of_not_mem {text : List Char} (h : '\n' ∉ text) (levels : Nat) :
    shifted levels text = text := by
  induction text with
  | nil => rfl
  | cons c text ih =>
      rw [List.mem_cons, not_or] at h
      rw [shifted_cons (Ne.symm h.1), ih h.2]

/-- A line end and the indentation behind it become those of a deeper level. -/
theorem shifted_line (levels depth : Nat) (text : List Char) :
    shifted levels ('\n' :: (indentation depth ++ text)) =
      '\n' :: (indentation (depth + levels) ++ shifted levels text) := by
  have hblanks : shifted levels (indentation depth) = indentation depth :=
    shifted_of_not_mem (by simp [indentation]) levels
  rw [shifted_newline, shifted_append, hblanks, indentation_add, List.append_assoc]

theorem shifted_separated (levels : Nat) (separator : List Char) (items : List (List Char)) :
    shifted levels (separated separator items) =
      separated (shifted levels separator) (items.map (shifted levels)) := by
  induction items with
  | nil => rfl
  | cons item rest ih =>
      cases rest with
      | nil => rfl
      | cons next rest => simp only [separated, shifted_append, ih, List.map_cons]

/-! ### Blocks -/

/-- A block at a deeper level is the block with its lines moved, if its items are moved likewise. -/
theorem shifted_block (hopening : '\n' ∉ opening) (hclosing : '\n' ∉ closing) (levels depth : Nat)
    (items : List (List Char)) :
    shifted levels (block opening closing items depth) =
      block opening closing (items.map (shifted levels)) (depth + levels) := by
  rw [block, block, List.isEmpty_map]
  split
  · rw [shifted_append, shifted_of_not_mem hopening, shifted_of_not_mem hclosing]
  · have hseparator : shifted levels (',' :: '\n' :: indentation (depth + 1)) =
        ',' :: '\n' :: indentation (depth + 1 + levels) := by
      have hline := shifted_line levels (depth + 1) []
      rw [List.append_nil] at hline
      rw [shifted_cons (by decide), hline, shifted, List.flatMap_nil, List.append_nil]
    simp only [List.append_assoc, List.cons_append, shifted_append, shifted_line,
      shifted_separated, hseparator, shifted_of_not_mem hopening, shifted_of_not_mem hclosing,
      Nat.add_right_comm depth 1 levels]

theorem separated_eq_intercalate (separator : List Char) (items : List (List Char)) :
    separated separator items = separator.intercalate items := by
  induction items with
  | nil => rfl
  | cons item rest ih =>
      cases rest with
      | nil => simp [separated]
      | cons next rest => simp only [separated, ih, List.intercalate_cons_cons]

/-- The blanks of a line belong to what stands on it. -/
theorem append_separated (margin separator : List Char) {items : List (List Char)}
    (h : items ≠ []) :
    margin ++ separated (separator ++ margin) items =
      separated separator (items.map (margin ++ ·)) := by
  induction items with
  | nil => exact absurd rfl h
  | cons item rest ih =>
      cases rest with
      | nil => rfl
      | cons next rest =>
          have hrest := ih (by simp)
          simp only [separated, List.map_cons, List.append_assoc] at hrest ⊢
          rw [hrest]

/-- A block at the outermost level frames its items, which are written for that level. -/
theorem block_eq_framed {bodies : List (List Char)} (h : bodies ≠ []) :
    block opening closing (bodies.map (shifted 1)) 0 = framed opening closing bodies := by
  have hrows : [' ', ' '] ++ separated ([',', '\n'] ++ [' ', ' ']) (bodies.map (shifted 1)) =
      [',', '\n'].intercalate (bodies.map indented) := by
    rw [append_separated _ _ (by simpa using h), separated_eq_intercalate, List.map_map]
    rfl
  rw [block, if_neg (by simpa using h), framed, ← hrows, Nat.zero_add,
    show indentation 1 = [' ', ' '] from rfl, show indentation 0 = [] from rfl]
  simp

theorem infix_intercalate {separator item : List Char} {items : List (List Char)}
    (h : item ∈ items) : item <:+: separator.intercalate items := by
  induction items with
  | nil => cases h
  | cons first rest ih =>
      cases rest with
      | nil =>
          obtain rfl := List.mem_singleton.mp h
          simp
      | cons next rest =>
          rw [List.intercalate_cons_cons]
          rcases List.mem_cons.mp h with rfl | h
          · exact ⟨[], separator ++ separator.intercalate (next :: rest), by simp⟩
          · exact (ih h).trans (List.suffix_append _ _).isInfix

/-- Each item stands in its block as it was given. -/
theorem infix_block {item : List Char} {items : List (List Char)} (h : item ∈ items)
    (depth : Nat) : item <:+: block opening closing items depth := by
  have hrows : item <:+: separated (',' :: '\n' :: indentation (depth + 1)) items := by
    rw [separated_eq_intercalate]
    exact infix_intercalate h
  rw [block, if_neg (by simpa using List.ne_nil_of_mem h)]
  exact hrows.trans ⟨opening ++ '\n' :: indentation (depth + 1),
    '\n' :: indentation depth ++ closing, by simp⟩

end SnippetBridge.Text
