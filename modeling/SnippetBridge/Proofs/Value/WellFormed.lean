import SnippetBridge.Proofs.DottedPath
import SnippetBridge.Proofs.Entries
import SnippetBridge.Value.Basic

/-!
Values whose objects repeat no key, and what holds of every reference or of every key in a value.
A value is *sound* for a property of paths when no object repeats a key and all references have the
property; this depends on the parts of a value only.
-/

namespace SnippetBridge.Value

theorem allWellFormed_iff {items : List Value} :
    AllWellFormed items ↔ ∀ item ∈ items, item.WellFormed := by
  induction items with
  | nil => simp [AllWellFormed]
  | cons item rest ih => simp [AllWellFormed, ih]

theorem entriesWellFormed_iff {entries : List (String × Value)} :
    EntriesWellFormed entries ↔ ∀ entry ∈ entries, entry.2.WellFormed := by
  induction entries with
  | nil => simp [EntriesWellFormed]
  | cons entry rest ih => simp [EntriesWellFormed, ih]

mutual

/-- The paths of all references in a value, at any depth, have a property. -/
def EveryReference (p : String → Prop) : Value → Prop
  | .array items => ItemsEveryReference p items
  | .object entries => EntriesEveryReference p entries
  | .reference path => p path
  | _ => True

def ItemsEveryReference (p : String → Prop) : List Value → Prop
  | [] => True
  | item :: rest => EveryReference p item ∧ ItemsEveryReference p rest

def EntriesEveryReference (p : String → Prop) : List (String × Value) → Prop
  | [] => True
  | (_, value) :: rest => EveryReference p value ∧ EntriesEveryReference p rest

end

theorem itemsEveryReference_iff {p : String → Prop} {items : List Value} :
    ItemsEveryReference p items ↔ ∀ item ∈ items, item.EveryReference p := by
  induction items with
  | nil => simp [ItemsEveryReference]
  | cons item rest ih => simp [ItemsEveryReference, ih]

theorem entriesEveryReference_iff {p : String → Prop} {entries : List (String × Value)} :
    EntriesEveryReference p entries ↔ ∀ entry ∈ entries, entry.2.EveryReference p := by
  induction entries with
  | nil => simp [EntriesEveryReference]
  | cons entry rest ih => simp [EntriesEveryReference, ih]

mutual

/-- The keys of all objects in a value, at any depth, have a property. -/
def EveryKey (p : String → Prop) : Value → Prop
  | .array items => ItemsEveryKey p items
  | .object entries => EntriesEveryKey p entries
  | _ => True

def ItemsEveryKey (p : String → Prop) : List Value → Prop
  | [] => True
  | item :: rest => EveryKey p item ∧ ItemsEveryKey p rest

def EntriesEveryKey (p : String → Prop) : List (String × Value) → Prop
  | [] => True
  | (key, value) :: rest => p key ∧ EveryKey p value ∧ EntriesEveryKey p rest

end

theorem itemsEveryKey_iff {p : String → Prop} {items : List Value} :
    ItemsEveryKey p items ↔ ∀ item ∈ items, item.EveryKey p := by
  induction items with
  | nil => simp [ItemsEveryKey]
  | cons item rest ih => simp [ItemsEveryKey, ih]

theorem entriesEveryKey_iff {p : String → Prop} {entries : List (String × Value)} :
    EntriesEveryKey p entries ↔ ∀ entry ∈ entries, p entry.1 ∧ entry.2.EveryKey p := by
  induction entries with
  | nil => simp [EntriesEveryKey]
  | cons entry rest ih => simp [EntriesEveryKey, ih, and_assoc]

/-- A reference can be made of one or more names with dots between them, and of nothing else. -/
theorem reference?_eq_ok_iff {path : String} {v : Value} :
    reference? path = .ok v ↔ DottedPath.JoinsNames path ∧ v = .reference path := by
  rw [reference?, ← DottedPath.isWellFormed_iff]
  split <;> simp [*, eq_comm]

theorem reference?_of_not_joinsNames {path : String} (h : ¬DottedPath.JoinsNames path) :
    reference? path = .error (.invalidPath path) := by
  rw [reference?, if_neg (mt DottedPath.isWellFormed_iff.mp h)]

/-! ### Sound values -/

variable {p : String → Prop}

/-- A value in which the paths of all references have a property and no object repeats a key. -/
structure Sound (p : String → Prop) (v : Value) : Prop where
  references : v.EveryReference p
  wellFormed : v.WellFormed

theorem sound_array {items : List Value} :
    (array items).Sound p ↔ ∀ item ∈ items, item.Sound p := by
  constructor
  · rintro ⟨hreferences, hformed⟩ item hitem
    exact ⟨itemsEveryReference_iff.mp hreferences item hitem,
      allWellFormed_iff.mp hformed item hitem⟩
  · intro h
    exact ⟨itemsEveryReference_iff.mpr fun item hitem => (h item hitem).references,
      allWellFormed_iff.mpr fun item hitem => (h item hitem).wellFormed⟩

theorem sound_object {entries : List (String × Value)} :
    (object entries).Sound p ↔
      (Entries.keys entries).Nodup ∧ ∀ entry ∈ entries, entry.2.Sound p := by
  constructor
  · rintro ⟨hreferences, hkeys, hformed⟩
    exact ⟨hkeys, fun entry hentry => ⟨entriesEveryReference_iff.mp hreferences entry hentry,
      entriesWellFormed_iff.mp hformed entry hentry⟩⟩
  · rintro ⟨hkeys, h⟩
    exact ⟨entriesEveryReference_iff.mpr fun entry hentry => (h entry hentry).references, hkeys,
      entriesWellFormed_iff.mpr fun entry hentry => (h entry hentry).wellFormed⟩

theorem sound_reference {path : String} : (reference path).Sound p ↔ p path :=
  ⟨fun h => h.references, fun h => ⟨h, trivial⟩⟩

/-- An object of any pairs is sound when their values are. -/
theorem sound_ofEntries {pairs : List (String × Value)} (h : ∀ pair ∈ pairs, pair.2.Sound p) :
    (ofEntries pairs).Sound p := by
  refine sound_object.mpr ⟨Entries.nodup_keys_ofList pairs, fun entry hentry => ?_⟩
  exact h entry (Entries.mem_of_mem_ofList hentry)

end SnippetBridge.Value
