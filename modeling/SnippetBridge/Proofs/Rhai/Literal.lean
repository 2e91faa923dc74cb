import SnippetBridge.Proofs.Binary64.Text
import SnippetBridge.Proofs.Entries
import SnippetBridge.Rhai.Literal

/-!
The literal of a value, laid out from the literals of what is in it.
-/

namespace SnippetBridge.Rhai

open Host

variable {options : Options} {depth : Nat}

/-- The literal of a value whose brackets stand at level `depth`. -/
def valueText (options : Options) (depth : Nat) (v : Value) : List Char :=
  treeText options depth (.ofValue v)

/-- The line of an entry of an object map. -/
def entryLine (options : Options) (depth : Nat) (entry : String × Value) : List Char :=
  keyText options entry.1 ++ ':' :: ' ' :: valueText options depth entry.2

theorem itemTexts_eq_map (options : Options) (depth : Nat) (items : List Value) :
    itemTexts options depth (Tree.ofItems items) = items.map (valueText options depth) := by
  induction items with
  | nil => rfl
  | cons item rest ih => exact congrArg (valueText options depth item :: ·) ih

theorem entryTexts_eq_map (options : Options) (depth : Nat) (entries : List (String × Value)) :
    entryTexts options depth (Tree.ofEntries entries) =
      entries.map fun entry => (entry.1, valueText options depth entry.2) := by
  induction entries with
  | nil => rfl
  | cons entry rest ih =>
      exact congrArg ((entry.1, valueText options depth entry.2) :: ·) ih

theorem valueText_array (options : Options) (depth : Nat) (items : List Value) :
    valueText options depth (.array items) =
      Text.block ['['] [']'] (items.map (valueText options (depth + 1))) depth := by
  rw [← itemTexts_eq_map]
  rfl

/-- The order in which the entries of an object come does not show. -/
theorem objectText_congr {xs ys : List (String × List Char)} (hkeys : (Entries.keys xs).Nodup)
    (horder : xs.Perm ys) : objectText options depth xs = objectText options depth ys := by
  rw [objectText, objectText, Entries.sorted_congr hkeys horder]

theorem valueText_object_eq (options : Options) (depth : Nat) (entries : List (String × Value)) :
    valueText options depth (.object entries) = objectText options depth
      (entries.map fun entry => (entry.1, valueText options (depth + 1) entry.2)) := by
  rw [← entryTexts_eq_map]
  rfl

/-- An object map shows the lines of its entries, sorted by their keys. -/
theorem valueText_object (options : Options) (depth : Nat) (entries : List (String × Value)) :
    valueText options depth (.object entries) =
      Text.block ['#', '\x7b'] ['\x7d']
        ((Entries.sorted entries).map (entryLine options (depth + 1))) depth := by
  rw [valueText_object_eq, objectText, Entries.sorted_map, List.map_map]
  rfl

/-- A finite number is written in plain form, but a zero has no sign. -/
theorem numberText_of_isFinite (options : Options) {x : Binary64} (hfinite : x.isFinite) :
    numberText options x = x.unsignedZero.plain.toList := by
  obtain ⟨negative, units, hrep, rfl⟩ := Binary64.exists_of_isFinite hfinite
  by_cases hunits : units = 0
  · subst hunits
    simp [numberText, Binary64.isFinite, Binary64.same, Binary64.zero, Binary64.unsignedZero,
      Binary64.plain]
  · simp [numberText, Binary64.isFinite, Binary64.same, Binary64.zero, Binary64.unsignedZero,
      hunits]

theorem numberText_unsignedZero (options : Options) {x : Binary64} (hfinite : x.isFinite) :
    numberText options x.unsignedZero = numberText options x := by
  rw [numberText_of_isFinite options (Binary64.isFinite_unsignedZero hfinite),
    numberText_of_isFinite options hfinite, Binary64.unsignedZero_unsignedZero]

end SnippetBridge.Rhai
