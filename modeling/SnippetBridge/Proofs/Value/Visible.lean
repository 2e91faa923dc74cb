import Mathlib.Data.List.Forall2
import SnippetBridge.Proofs.Entries
import SnippetBridge.Proofs.Value.WellFormed
import SnippetBridge.Value.Equality

/-!
What a literal can show of a value: everything that has no literal of its own looks like `null`. Two
values look the same when what can be shown of them is equal; for objects it is enough that every
entry of one looks the same as some entry of the other under the same key.
-/

namespace SnippetBridge.Value

/-- Induction over values: an array may rest on all its items at once, and an object on the values
of all its entries. -/
@[elab_as_elim] theorem nested_induction {motive : Value → Prop}
    (array : ∀ items, (∀ item ∈ items, motive item) → motive (.array items))
    (object : ∀ entries, (∀ entry ∈ entries, motive entry.2) → motive (.object entries))
    (scalar : ∀ v, v.items? = none → v.entries? = none → motive v) (v : Value) : motive v := by
  match v with
  | .array items =>
      exact array items fun item hitem => nested_induction array object scalar item
  | .object entries =>
      refine object entries fun entry hentry => ?_
      have hsmaller := List.sizeOf_lt_of_mem hentry
      obtain ⟨key, value⟩ := entry
      exact nested_induction array object scalar value
  | .null => exact scalar .null rfl rfl
  | .bool b => exact scalar (.bool b) rfl rfl
  | .number x => exact scalar (.number x) rfl rfl
  | .string s => exact scalar (.string s) rfl rfl
  | .reference path => exact scalar (.reference path) rfl rfl
  | .unknown => exact scalar .unknown rfl rfl
termination_by sizeOf v
decreasing_by
  all_goals simp_wf
  · have hsmaller := List.sizeOf_lt_of_mem hitem
    omega
  · simp at hsmaller
    omega

mutual

/-- What a literal shows of a value: `unknown` and numbers that are not finite look like `null`. -/
def visible : Value → Value
  | .null => .null
  | .unknown => .null
  | .bool b => .bool b
  | .number x => if x.isFinite then .number x else .null
  | .string s => .string s
  | .array items => .array (visibleItems items)
  | .object entries => .object (visibleEntries entries)
  | .reference path => .reference path

def visibleItems : List Value → List Value
  | [] => []
  | item :: rest => visible item :: visibleItems rest

def visibleEntries : List (String × Value) → List (String × Value)
  | [] => []
  | (key, value) :: rest => (key, visible value) :: visibleEntries rest

end

/-- Two values that look the same. -/
def LooksLike (v w : Value) : Prop := v.visible.same w.visible = true

theorem sameItems_visibleItems {xs ys : List Value} (h : List.Forall₂ LooksLike xs ys) :
    sameItems (visibleItems xs) (visibleItems ys) = true := by
  induction h with
  | nil => rfl
  | cons hitem _ ih => exact Bool.and_eq_true_iff.mpr ⟨hitem, ih⟩

theorem looksLike_array {xs ys : List Value} (h : List.Forall₂ LooksLike xs ys) :
    LooksLike (.array xs) (.array ys) := sameItems_visibleItems h

theorem length_visibleEntries (entries : List (String × Value)) :
    (visibleEntries entries).length = entries.length := by
  induction entries with
  | nil => rfl
  | cons entry rest ih => simp [visibleEntries, ih]

theorem find?_visibleEntries (key : String) (entries : List (String × Value)) :
    Entries.find? key (visibleEntries entries) = (Entries.find? key entries).map visible := by
  induction entries with
  | nil => rfl
  | cons entry rest ih =>
      obtain ⟨k, v⟩ := entry
      simp only [visibleEntries, Entries.find?, ih]
      split <;> rfl

/-- Two entries that look the same. -/
def EntriesLookLike (x y : String × Value) : Prop := x.1 = y.1 ∧ LooksLike x.2 y.2

/-- Objects look the same if each entry of the first has a partner in the second, whatever the
order. -/
theorem looksLike_object {xs ys : List (String × Value)} (hlength : xs.length = ys.length)
    (hkeys : (Entries.keys ys).Nodup) (h : ∀ x ∈ xs, ∃ y ∈ ys, EntriesLookLike x y) :
    LooksLike (.object xs) (.object ys) := by
  have hentries : sameEntries (visibleEntries xs) (visibleEntries ys) = true := by
    -- The induction takes entries from one side only, so the lengths do not stay equal.
    clear hlength
    induction xs with
    | nil => rfl
    | cons x xs ih =>
        obtain ⟨key, v⟩ := x
        obtain ⟨hx, hxs⟩ := List.forall_mem_cons.mp h
        obtain ⟨⟨key', w⟩, hmem, hkey, hlooks⟩ := hx
        obtain rfl : key = key' := hkey
        rw [visibleEntries, sameEntries, find?_visibleEntries,
          Entries.find?_of_mem hkeys hmem, ih hxs, Bool.and_true]
        exact hlooks
  simp only [LooksLike, visible, same, length_visibleEntries, hlength, hentries]
  simp

theorem exists_partner {xs ys : List (String × Value)} (h : List.Forall₂ EntriesLookLike xs ys) :
    ∀ x ∈ xs, ∃ y ∈ ys, EntriesLookLike x y := by
  induction h with
  | nil => simp
  | cons hhead _ ih =>
      refine List.forall_mem_cons.mpr ⟨⟨_, List.mem_cons_self, hhead⟩, fun x hx => ?_⟩
      obtain ⟨y, hy, hxy⟩ := ih x hx
      exact ⟨y, List.mem_cons_of_mem _ hy, hxy⟩

/-- Objects whose sorted entries look the same one by one look the same. -/
theorem looksLike_object_of_sorted {xs ys : List (String × Value)} (hkeys : (Entries.keys ys).Nodup)
    (h : List.Forall₂ EntriesLookLike (Entries.sorted xs) (Entries.sorted ys)) :
    LooksLike (.object xs) (.object ys) := by
  refine looksLike_object ?_ hkeys fun x hx => ?_
  · rw [← Entries.length_sorted xs, h.length_eq, Entries.length_sorted]
  · obtain ⟨y, hy, hxy⟩ := exists_partner h x (Entries.mem_sorted.mpr hx)
    exact ⟨y, Entries.mem_sorted.mp hy, hxy⟩

end SnippetBridge.Value
