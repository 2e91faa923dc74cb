/-!
Maps that keep the order in which keys first came. They are lists of pairs with pairwise distinct
keys; inserting a key that is present replaces its value where it stands.
-/

namespace SnippetBridge.Entries

variable {α : Type}

def keys (entries : List (String × α)) : List String := entries.map Prod.fst

def find? (key : String) : List (String × α) → Option α
  | [] => none
  | (k, v) :: rest => if k = key then some v else find? key rest

def insert (key : String) (value : α) : List (String × α) → List (String × α)
  | [] => [(key, value)]
  | (k, v) :: rest => if k = key then (k, value) :: rest else (k, v) :: insert key value rest

def erase (key : String) : List (String × α) → List (String × α)
  | [] => []
  | (k, v) :: rest => if k = key then rest else (k, v) :: erase key rest

/-- Inserts pairs one after the other. -/
def insertAll (base extra : List (String × α)) : List (String × α) :=
  extra.foldl (fun entries (key, value) => insert key value entries) base

/-- The map of a list of pairs: each key once, where it came first, with the value it got last. -/
def ofList (pairs : List (String × α)) : List (String × α) := insertAll [] pairs

/-- Entries in ascending order of their keys, code point by code point. -/
def sorted (entries : List (String × α)) : List (String × α) :=
  entries.mergeSort fun a b => decide (a.1 ≤ b.1)

theorem keys_insert_of_mem {key : String} {value : α} {entries : List (String × α)}
    (h : key ∈ keys entries) : keys (insert key value entries) = keys entries := by
  induction entries with
  | nil => simp [keys] at h
  | cons e rest ih =>
    obtain ⟨k, v⟩ := e
    by_cases hk : k = key
    · simp [insert, hk, keys]
    · have : key ∈ keys rest := by simpa [keys, Ne.symm hk] using h
      have := ih this
      simp only [insert, hk, if_false, keys, List.map_cons] at this ⊢
      rw [this]

theorem keys_insert_of_not_mem {key : String} {value : α} {entries : List (String × α)}
    (h : key ∉ keys entries) : keys (insert key value entries) = keys entries ++ [key] := by
  induction entries with
  | nil => rfl
  | cons e rest ih =>
    obtain ⟨k, v⟩ := e
    have hk : k ≠ key := fun e => h (by simp [keys, e])
    have hr : key ∉ keys rest := fun m => h (List.mem_cons_of_mem k m)
    have := ih hr
    simp only [insert, hk, if_false, keys, List.map_cons, List.cons_append] at this ⊢
    rw [this]

theorem find?_insert_self (key : String) (value : α) (entries : List (String × α)) :
    find? key (insert key value entries) = some value := by
  induction entries with
  | nil => simp [insert, find?]
  | cons e rest ih => obtain ⟨k, v⟩ := e; by_cases hk : k = key <;> simp [insert, find?, hk, ih]

theorem find?_insert_of_ne {key other : String} (h : other ≠ key) (value : α)
    (entries : List (String × α)) :
    find? other (insert key value entries) = find? other entries := by
  induction entries with
  | nil => simp [insert, find?, Ne.symm h]
  | cons e rest ih =>
    obtain ⟨k, v⟩ := e
    by_cases hk : k = key
    · simp [insert, find?, hk, Ne.symm h]
    · simp [insert, find?, hk, ih]

end SnippetBridge.Entries
