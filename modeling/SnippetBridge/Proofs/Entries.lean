import Mathlib.Data.List.Basic
import Mathlib.Data.List.Induction
import Mathlib.Data.List.Nodup
import SnippetBridge.Entries

/-!
Laws of ordered maps. Inserting pairs one after the other leaves every key once, where it came first
and with the value it got last. A list whose keys are pairwise distinct already is the map of
itself.
-/

namespace SnippetBridge.Entries

variable {α : Type} {key : String} {value : α} {entries base extra : List (String × α)}

@[simp] theorem keys_nil : keys ([] : List (String × α)) = [] := rfl

@[simp] theorem keys_cons (entry : String × α) (rest : List (String × α)) :
    keys (entry :: rest) = entry.1 :: keys rest := rfl

theorem insert_of_not_mem (h : key ∉ keys entries) :
    insert key value entries = entries ++ [(key, value)] := by
  induction entries with
  | nil => rfl
  | cons entry rest ih =>
      simp only [keys_cons, List.mem_cons, not_or] at h
      simp only [insert, if_neg (Ne.symm h.1), ih h.2, List.cons_append]

theorem mem_of_mem_insert {entry : String × α} (h : entry ∈ insert key value entries) :
    entry = (key, value) ∨ entry ∈ entries := by
  induction entries with
  | nil => exact .inl (List.mem_singleton.mp h)
  | cons head rest ih =>
      simp only [insert] at h
      split at h
      · next hk =>
          rcases List.mem_cons.mp h with rfl | hrest
          · exact .inl (Prod.ext hk rfl)
          · exact .inr (List.mem_cons_of_mem head hrest)
      · rcases List.mem_cons.mp h with rfl | hrest
        · exact .inr List.mem_cons_self
        · exact (ih hrest).imp_right (List.mem_cons_of_mem head)

theorem nodup_keys_insert (h : (keys entries).Nodup) : (keys (insert key value entries)).Nodup := by
  by_cases hmem : key ∈ keys entries
  · rwa [keys_insert_of_mem hmem]
  · rw [keys_insert_of_not_mem hmem]
    simpa using h.concat hmem

theorem keys_erase (key : String) (entries : List (String × α)) :
    keys (erase key entries) = (keys entries).erase key := by
  induction entries with
  | nil => rfl
  | cons entry rest ih =>
      obtain ⟨k, v⟩ := entry
      by_cases hk : k = key
      · simp [erase, hk]
      · simp [erase, hk, ih]

theorem nodup_keys_erase (h : (keys entries).Nodup) : (keys (erase key entries)).Nodup := by
  rw [keys_erase]
  exact h.erase key

@[simp] theorem insertAll_nil : insertAll base [] = base := rfl

@[simp] theorem insertAll_cons (entry : String × α) :
    insertAll base (entry :: extra) = insertAll (insert entry.1 entry.2 base) extra := rfl

theorem nodup_keys_insertAll (h : (keys base).Nodup) : (keys (insertAll base extra)).Nodup := by
  induction extra generalizing base with
  | nil => exact h
  | cons entry rest ih => exact ih (nodup_keys_insert h)

theorem nodup_keys_ofList (pairs : List (String × α)) : (keys (ofList pairs)).Nodup :=
  nodup_keys_insertAll List.nodup_nil

theorem mem_of_mem_insertAll {entry : String × α} (h : entry ∈ insertAll base extra) :
    entry ∈ base ∨ entry ∈ extra := by
  induction extra generalizing base with
  | nil => exact .inl h
  | cons head rest ih =>
      rcases ih h with hbase | hrest
      · rcases mem_of_mem_insert hbase with rfl | hbase
        · exact .inr List.mem_cons_self
        · exact .inl hbase
      · exact .inr (List.mem_cons_of_mem head hrest)

/-- Every entry of the map of a list of pairs is one of the pairs. -/
theorem mem_of_mem_ofList {pairs : List (String × α)} {entry : String × α}
    (h : entry ∈ ofList pairs) : entry ∈ pairs :=
  (mem_of_mem_insertAll h).resolve_left List.not_mem_nil

theorem insertAll_of_nodup (h : (keys (base ++ extra)).Nodup) :
    insertAll base extra = base ++ extra := by
  induction extra generalizing base with
  | nil => simp
  | cons entry rest ih =>
      have hfresh : entry.1 ∉ keys base := by
        simp only [keys, List.map_append, List.map_cons] at h ⊢
        exact fun hmem => (List.nodup_append.mp h).2.2 _ hmem _ List.mem_cons_self rfl
      rw [insertAll_cons, insert_of_not_mem hfresh, ih (by simpa using h)]
      simp

theorem ofList_of_nodup (h : (keys entries).Nodup) : ofList entries = entries :=
  insertAll_of_nodup h

theorem find?_of_mem (h : (keys entries).Nodup) (hmem : (key, value) ∈ entries) :
    find? key entries = some value := by
  induction entries with
  | nil => simp at hmem
  | cons entry rest ih =>
      obtain ⟨k, v⟩ := entry
      obtain ⟨hfresh, hrest⟩ := List.nodup_cons.mp h
      rcases List.mem_cons.mp hmem with heq | htail
      · cases heq
        rw [find?, if_pos rfl]
      · have hne : k ≠ key := by
          rintro rfl
          exact hfresh (List.mem_map.mpr ⟨_, htail, rfl⟩)
        rw [find?, if_neg hne, ih hrest htail]

theorem mem_of_find? (h : find? key entries = some value) : (key, value) ∈ entries := by
  induction entries with
  | nil => simp [find?] at h
  | cons entry rest ih =>
      obtain ⟨k, v⟩ := entry
      rw [find?] at h
      split at h
      · next hk =>
          cases h
          exact hk ▸ List.mem_cons_self
      · exact List.mem_cons_of_mem _ (ih h)

theorem find?_erase_of_ne {other : String} (hne : other ≠ key) (entries : List (String × α)) :
    find? other (erase key entries) = find? other entries := by
  induction entries with
  | nil => rfl
  | cons entry rest ih =>
      obtain ⟨k, v⟩ := entry
      by_cases hk : k = key
      · have hother : key ≠ other := hne.symm
        simp [erase, find?, hk, hother]
      · simp [erase, find?, hk, ih]

/-- An entry that is found can be moved to the front. -/
theorem perm_cons_erase (h : find? key entries = some value) :
    ((key, value) :: erase key entries).Perm entries := by
  induction entries with
  | nil => simp [find?] at h
  | cons entry rest ih =>
      obtain ⟨k, v⟩ := entry
      rw [find?] at h
      split at h
      · next hk =>
          cases h
          simp [erase, hk]
      · next hk =>
          rw [erase, if_neg hk]
          exact (List.Perm.swap (k, v) (key, value) _).trans ((ih h).cons (k, v))

/-- Sorting looks at the keys only. -/
theorem sorted_map {β : Type} (f : α → β) (entries : List (String × α)) :
    sorted (entries.map fun entry => (entry.1, f entry.2)) =
      (sorted entries).map fun entry => (entry.1, f entry.2) := by
  symm
  apply List.map_mergeSort
  intro a _ b _
  rfl

/-- Entries that are related one by one and have the same keys are related when they are sorted. -/
theorem forall₂_sorted {β : Type} {R : String × α → String × β → Prop}
    (hkey : ∀ x y, R x y → x.1 = y.1) {xs : List (String × α)} {ys : List (String × β)}
    (h : List.Forall₂ R xs ys) : List.Forall₂ R (sorted xs) (sorted ys) := by
  -- Both lists are images of one list, which can be sorted in their place.
  obtain ⟨pairs, rfl, rfl, hpairs⟩ : ∃ pairs : List (String × α × β),
      (pairs.map fun pair => (pair.1, pair.2.1)) = xs ∧
        (pairs.map fun pair => (pair.1, pair.2.2)) = ys ∧
          ∀ pair ∈ pairs, R (pair.1, pair.2.1) (pair.1, pair.2.2) := by
    induction h with
    | nil => exact ⟨[], rfl, rfl, by simp⟩
    | @cons x y xs ys hxy _ ih =>
        obtain ⟨key, a⟩ := x
        obtain ⟨other, b⟩ := y
        obtain rfl : key = other := hkey _ _ hxy
        obtain ⟨pairs, rfl, rfl, hpairs⟩ := ih
        exact ⟨(key, a, b) :: pairs, rfl, rfl, List.forall_mem_cons.mpr ⟨hxy, hpairs⟩⟩
  rw [sorted_map Prod.fst, sorted_map Prod.snd, List.forall₂_map_left_iff,
    List.forall₂_map_right_iff, List.forall₂_same]
  exact fun pair hpair => hpairs pair ((List.mergeSort_perm pairs _).mem_iff.mp hpair)

theorem mem_sorted {entry : String × α} : entry ∈ sorted entries ↔ entry ∈ entries :=
  (List.mergeSort_perm entries _).mem_iff

theorem length_sorted (entries : List (String × α)) : (sorted entries).length = entries.length :=
  List.length_mergeSort entries

theorem pairwise_sorted (entries : List (String × α)) :
    (sorted entries).Pairwise fun a b => a.1 ≤ b.1 := by
  have hpairwise : (sorted entries).Pairwise fun a b => decide (a.1 ≤ b.1) = true := by
    apply List.pairwise_mergeSort
    · intro a b c hab hbc
      simp only [decide_eq_true_eq] at hab hbc ⊢
      exact String.le_trans hab hbc
    · intro a b
      simpa using String.le_total a.1 b.1
  exact hpairwise.imp of_decide_eq_true

/-- Entries with distinct keys can be put in ascending order in one way only. -/
theorem sorted_eq_of_perm {xs ys : List (String × α)} (hkeys : (keys xs).Nodup) (hperm : xs.Perm ys)
    (hys : ys.Pairwise fun a b => a.1 ≤ b.1) : sorted xs = ys := by
  have hsorted : (sorted xs).Perm xs := List.mergeSort_perm xs _
  refine (hsorted.trans hperm).eq_of_pairwise ?_ (pairwise_sorted xs) hys
  intro a b ha hb hab hba
  exact List.inj_on_of_nodup_map hkeys (hsorted.subset ha) (hperm.symm.subset hb)
    (String.le_antisymm hab hba)

theorem sorted_congr {xs ys : List (String × α)} (hkeys : (keys xs).Nodup) (hperm : xs.Perm ys) :
    sorted xs = sorted ys :=
  sorted_eq_of_perm hkeys (hperm.trans (List.mergeSort_perm ys _).symm) (pairwise_sorted ys)

/-! ### The order of insertions -/

theorem mem_keys_insert_of_mem {other : String} (h : key ∈ keys entries) :
    key ∈ keys (insert other value entries) := by
  by_cases hother : other ∈ keys entries
  · rwa [keys_insert_of_mem hother]
  · rw [keys_insert_of_not_mem hother]
    exact List.mem_append_left _ h

theorem insert_insert (first second : α) :
    insert key second (insert key first entries) = insert key second entries := by
  induction entries with
  | nil => simp [insert]
  | cons entry rest ih =>
      obtain ⟨k, v⟩ := entry
      by_cases hk : k = key
      · simp [insert, hk]
      · simp [insert, hk, ih]

/-- A key that has its place keeps it, so its value may be put in before or after another key. -/
theorem insert_comm {other : String} (hne : key ≠ other) (hmem : key ∈ keys entries)
    (value value' : α) :
    insert key value (insert other value' entries) =
      insert other value' (insert key value entries) := by
  induction entries with
  | nil => simp at hmem
  | cons entry rest ih =>
      obtain ⟨k, v⟩ := entry
      rcases List.mem_cons.mp hmem with rfl | hrest
      · simp [insert, hne]
      · by_cases hother : k = other
        · have hkey : k ≠ key := fun hk => hne (hk.symm.trans hother)
          simp [insert, hother, hother ▸ hkey]
        · by_cases hkey : k = key
          · simp [insert, hkey, hne]
          · simp [insert, hother, hkey, ih hrest]

theorem insert_insertAll (hmem : key ∈ keys base) (hfresh : key ∉ keys extra) :
    insert key value (insertAll base extra) = insertAll (insert key value base) extra := by
  induction extra generalizing base with
  | nil => rfl
  | cons entry rest ih =>
      obtain ⟨hne, hrest⟩ := not_or.mp (mt List.mem_cons.mpr hfresh)
      rw [insertAll_cons, insertAll_cons, ih (mem_keys_insert_of_mem hmem) hrest,
        insert_comm hne hmem]

/-- What is inserted before the insertions is inserted after them all. -/
theorem insertAll_insert (h : (keys extra).Nodup) :
    insertAll base (insert key value extra) = insert key value (insertAll base extra) := by
  induction extra generalizing base with
  | nil => rfl
  | cons entry rest ih =>
      obtain ⟨k, v⟩ := entry
      obtain ⟨hfresh, hrest⟩ := List.nodup_cons.mp h
      by_cases hk : k = key
      · subst hk
        have hmem : k ∈ keys (insert k v base) := by
          by_cases hbase : k ∈ keys base
          · exact mem_keys_insert_of_mem hbase
          · simp [keys_insert_of_not_mem hbase]
        simp only [insert, if_pos, insertAll_cons]
        rw [insert_insertAll hmem hfresh, insert_insert]
      · simp only [insert, if_neg hk, insertAll_cons]
        exact ih hrest

theorem insertAll_append (base xs ys : List (String × α)) :
    insertAll base (xs ++ ys) = insertAll (insertAll base xs) ys := List.foldl_append

theorem ofList_concat (pairs : List (String × α)) (pair : String × α) :
    ofList (pairs ++ [pair]) = insert pair.1 pair.2 (ofList pairs) :=
  insertAll_append [] pairs [pair]

/-- Inserting the map of a list of pairs is inserting the pairs one after the other. -/
theorem insertAll_ofList (base pairs : List (String × α)) :
    insertAll base (ofList pairs) = insertAll base pairs := by
  induction pairs using List.reverseRecOn with
  | nil => rfl
  | append_singleton pairs pair ih =>
      rw [ofList_concat, insertAll_insert (nodup_keys_ofList pairs), ih]
      exact (insertAll_append base pairs [pair]).symm

/-! ### First and last occurrences -/

/-- The map of a list of pairs has each key once, where it came first. -/
theorem keys_ofList (pairs : List (String × α)) : keys (ofList pairs) = (keys pairs).eraseDups := by
  induction pairs using List.reverseRecOn with
  | nil => rfl
  | append_singleton pairs pair ih =>
      have hkeys : keys (pairs ++ [pair]) = keys pairs ++ [pair.1] := by simp [keys]
      rw [ofList_concat, hkeys, List.eraseDups_append, ← ih]
      by_cases hmem : pair.1 ∈ keys (ofList pairs)
      · have hseen : pair.1 ∈ keys pairs := by rwa [ih, List.mem_eraseDups] at hmem
        rw [keys_insert_of_mem hmem]
        simp [List.removeAll, hseen]
      · have hseen : pair.1 ∉ keys pairs := by rwa [ih, List.mem_eraseDups] at hmem
        rw [keys_insert_of_not_mem hmem]
        simp [List.removeAll, hseen, List.eraseDups_cons]

/-- The map of a list of pairs holds the value that each key got last. -/
theorem find?_ofList (key : String) (pairs : List (String × α)) :
    find? key (ofList pairs) = find? key pairs.reverse := by
  induction pairs using List.reverseRecOn with
  | nil => rfl
  | append_singleton pairs pair ih =>
      rw [ofList_concat, List.reverse_append, List.reverse_singleton, List.singleton_append]
      by_cases hkey : pair.1 = key
      · rw [hkey, find?_insert_self, find?, if_pos hkey]
      · rw [find?_insert_of_ne (Ne.symm hkey), ih, find?, if_neg hkey]

/-! ### Changed values -/

section

variable {β : Type} (f : α → β)

/-- Entries with the values changed. -/
def mapValues (entries : List (String × α)) : List (String × β) :=
  entries.map fun entry => (entry.1, f entry.2)

theorem keys_mapValues (entries : List (String × α)) :
    keys (mapValues f entries) = keys entries := by
  simp [keys, mapValues]

theorem insert_mapValues (key : String) (value : α) (entries : List (String × α)) :
    insert key (f value) (mapValues f entries) = mapValues f (insert key value entries) := by
  induction entries with
  | nil => rfl
  | cons entry rest ih =>
      obtain ⟨k, v⟩ := entry
      rw [mapValues] at ih ⊢
      by_cases hk : k = key
      · simp [insert, mapValues, hk]
      · simp [insert, mapValues, hk, ih]

theorem insertAll_mapValues (base extra : List (String × α)) :
    insertAll (mapValues f base) (mapValues f extra) = mapValues f (insertAll base extra) := by
  induction extra generalizing base with
  | nil => rfl
  | cons entry rest ih =>
      rw [insertAll_cons, ← ih, ← insert_mapValues]
      rfl

/-- Values can be changed before or after the map is made. -/
theorem ofList_mapValues (pairs : List (String × α)) :
    ofList (mapValues f pairs) = mapValues f (ofList pairs) :=
  insertAll_mapValues f [] pairs

end

/-! ### Maps put into maps -/

theorem insert_of_find? (h : find? key entries = some value) :
    insert key value entries = entries := by
  induction entries with
  | nil => simp [find?] at h
  | cons entry rest ih =>
      obtain ⟨k, v⟩ := entry
      rw [find?] at h
      split at h
      · next hk =>
          cases h
          rw [insert, if_pos hk]
      · next hk => rw [insert, if_neg hk, ih h]

/-- What is there already changes nothing. -/
theorem insertAll_of_find? (h : ∀ entry ∈ extra, find? entry.1 base = some entry.2) :
    insertAll base extra = base := by
  induction extra with
  | nil => rfl
  | cons entry rest ih =>
      obtain ⟨hentry, hrest⟩ := List.forall_mem_cons.mp h
      rw [insertAll_cons, insert_of_find? hentry, ih hrest]

theorem insertAll_self (h : (keys entries).Nodup) : insertAll entries entries = entries :=
  insertAll_of_find? fun _ hentry => find?_of_mem h hentry

/-- Maps can be put into one another from either end. -/
theorem insertAll_assoc {middle : List (String × α)} (h : (keys middle).Nodup) :
    insertAll (insertAll base middle) extra = insertAll base (insertAll middle extra) := by
  have hmiddle : insertAll middle extra = ofList (middle ++ extra) := by
    rw [ofList, insertAll_append]
    exact congrArg (insertAll · extra) (ofList_of_nodup h).symm
  rw [hmiddle, insertAll_ofList, insertAll_append]

end SnippetBridge.Entries
