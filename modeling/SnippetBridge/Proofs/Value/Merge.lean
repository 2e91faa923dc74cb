import SnippetBridge.Proofs.Entries
import SnippetBridge.Proofs.Value.Decidable

/-!
Laws of merging. Objects are merged by listing the entries of one behind those of the other, so that
all laws for objects are laws of lists. A value that is not an object takes the place of what it is
merged into, and what is merged into it takes its place.
-/

namespace SnippetBridge.Value

variable {v w : Value}

/-- The object of a list of pairs in two parts is made of the objects of both parts. -/
theorem ofEntries_append (xs ys : List (String × Value)) :
    ofEntries (xs ++ ys) = (ofEntries xs).merge (ofEntries ys) := by
  rw [ofEntries, Entries.ofList, Entries.insertAll_append]
  exact congrArg object (Entries.insertAll_ofList (Entries.ofList xs) ys).symm

theorem merge_object (base extra : List (String × Value)) :
    (object base).merge (.object extra) = .object (Entries.insertAll base extra) :=
  rfl

theorem eq_object_of_entries? {entries : List (String × Value)} (h : v.entries? = some entries) :
    v = .object entries := by
  cases v with
  | object entries =>
      cases h
      rfl
  | _ => contradiction

theorem merge_into_other (h : v.entries? = none) : v.merge w = w := by
  cases v with
  | object entries => contradiction
  | _ => rfl

theorem merge_of_other (h : w.entries? = none) : v.merge w = w := by
  cases w with
  | object entries => contradiction
  | _ => cases v <;> rfl

theorem merge_self (hv : v.WellFormed) : v.merge v = v := by
  cases hentries : v.entries? with
  | none => exact merge_of_other hentries
  | some entries =>
      obtain rfl := eq_object_of_entries? hentries
      rw [merge_object, Entries.insertAll_self hv.1]

theorem empty_merge (hv : v.WellFormed) : (object []).merge v = v := by
  cases hentries : v.entries? with
  | none => exact merge_of_other hentries
  | some entries =>
      obtain rfl := eq_object_of_entries? hentries
      exact congrArg object (Entries.ofList_of_nodup hv.1)

theorem merge_empty (h : v.entries?.isSome) : v.merge (.object []) = v := by
  obtain ⟨entries, hentries⟩ := Option.isSome_iff_exists.mp h
  obtain rfl := eq_object_of_entries? hentries
  rfl

/-- It does not matter which of two merges comes first, unless an object is merged into a value that
is no object: then the first order gives that object, and the other merges it further. -/
theorem merge_assoc_iff (a : Value) {b : Value} (c : Value) (hb : b.WellFormed) :
    (a.merge b).merge c = a.merge (b.merge c) ↔
      b.entries?.isSome ∨ c.entries?.isNone ∨ a.merge c = c := by
  cases hc : c.entries? with
  | none => simp [merge_of_other hc]
  | some extra =>
      cases hentries : b.entries? with
      | none => simp [merge_of_other hentries, merge_into_other hentries, eq_comm]
      | some middle =>
          obtain rfl := eq_object_of_entries? hc
          obtain rfl := eq_object_of_entries? hentries
          have hassoc : (a.merge (.object middle)).merge (.object extra) =
              a.merge ((object middle).merge (.object extra)) := by
            cases ha : a.entries? with
            | none => rw [merge_into_other ha, merge_into_other ha]
            | some base =>
                obtain rfl := eq_object_of_entries? ha
                simp only [merge_object, Entries.insertAll_assoc hb.1]
          simp [hassoc]

/-- Merging objects lists the entries of the second behind those of the first. In the object of a
list of pairs each key stands once, where it comes first and with the value that it has last. So
merging is idempotent, the empty object is neutral among objects, and three values can be merged in
either order if the second is an object or the third is none. -/
theorem merge_ofEntries :
    (∀ xs ys : List (String × Value),
        (ofEntries xs).merge (ofEntries ys) = ofEntries (xs ++ ys)) ∧
      (∀ pairs : List (String × Value), ∃ entries, ofEntries pairs = .object entries ∧
        Entries.keys entries = (Entries.keys pairs).eraseDups ∧
        ∀ key, Entries.find? key entries = Entries.find? key pairs.reverse) ∧
      (∀ a : Value, a.WellFormed → a.merge a = a ∧ (object []).merge a = a ∧
        (a.entries?.isSome → a.merge (.object []) = a)) ∧
      ∀ a b c : Value, b.WellFormed →
        ((a.merge b).merge c = a.merge (b.merge c) ↔
          b.entries?.isSome ∨ c.entries?.isNone ∨ a.merge c = c) := by
  refine ⟨fun xs ys => (ofEntries_append xs ys).symm, fun pairs => ?_, fun a ha => ?_, ?_⟩
  · exact ⟨_, rfl, Entries.keys_ofList pairs, fun key => Entries.find?_ofList key pairs⟩
  · exact ⟨merge_self ha, empty_merge ha, merge_empty⟩
  · exact fun a b c hb => merge_assoc_iff a c hb

/-- A key that is given twice in both lists; and an object that is merged into `null`, which is not
what comes of merging it into an object. -/
theorem merge_ofEntries_repeated :
    (ofEntries [("a", .null), ("b", .bool true), ("a", .bool false)]).merge
        (ofEntries [("c", .null), ("a", .string "x"), ("c", .unknown)]) =
      .object [("a", .string "x"), ("b", .bool true), ("c", .unknown)] ∧
    ((object [("a", .null)]).merge (.object [("b", .null)])).merge (.object [("a", .unknown)]) =
      (object [("a", .null)]).merge ((object [("b", .null)]).merge (.object [("a", .unknown)])) ∧
    ((object [("a", .null)]).merge .null).merge (.object []) ≠
      (object [("a", .null)]).merge (merge .null (.object [])) := by
  obtain ⟨hconcat, -, -, hassoc⟩ := merge_ofEntries
  have hobject : (object [("b", .null)]).WellFormed := by simp [WellFormed, EntriesWellFormed]
  refine ⟨?_, ?_, ?_⟩
  · rw [hconcat]
    decide +kernel
  · exact (hassoc _ _ _ hobject).mpr (.inl rfl)
  · rw [ne_eq, hassoc _ .null _ trivial]
    decide +kernel

end SnippetBridge.Value
