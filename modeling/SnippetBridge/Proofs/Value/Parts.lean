import SnippetBridge.Proofs.Value.Visible

/-!
The parts of a value: the value itself, the items of its arrays and the values of its objects, at
any depth. What is said of every reference of a value is what is said of its parts that are
references.
-/

namespace SnippetBridge.Value

/-- A value stands in another one, at any depth, or is that value. -/
inductive PartOf : Value → Value → Prop where
  | refl (v : Value) : PartOf v v
  | item {part item : Value} {items : List Value} (hmem : item ∈ items) (h : PartOf part item) :
      PartOf part (.array items)
  | entry {part value : Value} {key : String} {entries : List (String × Value)}
      (hmem : (key, value) ∈ entries) (h : PartOf part value) : PartOf part (.object entries)

variable {part : Value} {items : List Value} {entries : List (String × Value)}

theorem partOf_array_iff :
    part.PartOf (.array items) ↔ part = .array items ∨ ∃ item ∈ items, part.PartOf item := by
  constructor
  · intro h
    cases h with
    | refl => exact .inl rfl
    | item hmem h => exact .inr ⟨_, hmem, h⟩
  · rintro (rfl | ⟨item, hmem, h⟩)
    · exact .refl _
    · exact .item hmem h

theorem partOf_object_iff :
    part.PartOf (.object entries) ↔
      part = .object entries ∨ ∃ entry ∈ entries, part.PartOf entry.2 := by
  constructor
  · intro h
    cases h with
    | refl => exact .inl rfl
    | entry hmem h => exact .inr ⟨_, hmem, h⟩
  · rintro (rfl | ⟨entry, hmem, h⟩)
    · exact .refl _
    · exact .entry hmem h

/-- What is neither an array nor an object has no other part than itself. -/
theorem partOf_scalar_iff {v : Value} (hitems : v.items? = none) (hentries : v.entries? = none) :
    part.PartOf v ↔ part = v := by
  constructor
  · intro h
    cases h with
    | refl => rfl
    | item => cases hitems
    | entry => cases hentries
  · rintro rfl
    exact .refl _

theorem everyReference_iff {p : String → Prop} (v : Value) :
    v.EveryReference p ↔ ∀ path, (Value.reference path).PartOf v → p path := by
  induction v using nested_induction with
  | array items ih =>
      rw [EveryReference, itemsEveryReference_iff]
      simp only [partOf_array_iff, reduceCtorEq, false_or]
      constructor
      · rintro h path ⟨item, hitem, hpart⟩
        exact (ih item hitem).mp (h item hitem) path hpart
      · intro h item hitem
        exact (ih item hitem).mpr fun path hpart => h path ⟨item, hitem, hpart⟩
  | object entries ih =>
      rw [EveryReference, entriesEveryReference_iff]
      simp only [partOf_object_iff, reduceCtorEq, false_or]
      constructor
      · rintro h path ⟨entry, hentry, hpart⟩
        exact (ih entry hentry).mp (h entry hentry) path hpart
      · intro h entry hentry
        exact (ih entry hentry).mpr fun path hpart => h path ⟨entry, hentry, hpart⟩
  | scalar v hitems hentries =>
      simp only [partOf_scalar_iff hitems hentries]
      cases v <;> simp_all [EveryReference, items?, entries?]

end SnippetBridge.Value
