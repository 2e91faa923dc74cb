import SnippetBridge.Proofs.Binary64.Rounding
import SnippetBridge.Proofs.Value.Visible

/-!
What equality of values comes down to. The entries of equal objects can be brought into the same
order, and then they are equal one by one; the only numbers that are equal without being identical
are the two zeros. So a relation holds between equal values if it holds between the zeros and
depends on the parts of a value, whatever the order of entries.
-/

namespace SnippetBridge

theorem Binary64.eq_or_zeros_of_same {x y : Binary64} (h : x.same y = true) :
    x = y ∨ ∃ s t, x = zero s ∧ y = zero t := by
  cases x with
  | nan => cases h
  | infinite s =>
      cases y with
      | infinite t => exact .inl (congrArg infinite (beq_iff_eq.mp h))
      | _ => cases h
  | finite s units hrep =>
      cases y with
      | finite t units' hrep' =>
          simp only [same, Bool.and_eq_true, Bool.or_eq_true, beq_iff_eq] at h
          obtain ⟨rfl, rfl | rfl⟩ := h
          · exact .inl rfl
          · exact .inr ⟨s, t, rfl, rfl⟩
      | _ => cases h

namespace Value

/-- Two entries with the same key whose values are related. -/
def EntryRelated (r : Value → Value → Prop) (x y : String × Value) : Prop := x.1 = y.1 ∧ r x.2 y.2

theorem keys_eq_of_related {r : Value → Value → Prop} {xs ys : List (String × Value)}
    (h : List.Forall₂ (EntryRelated r) xs ys) : Entries.keys xs = Entries.keys ys := by
  induction h with
  | nil => rfl
  | cons hfirst _ ih => exact congrArg₂ List.cons hfirst.1 ih

/-- An entry without a partner on one side can be taken away from the other side. -/
theorem sameEntries_erase {key : String} {xs ys : List (String × Value)}
    (hfresh : key ∉ Entries.keys xs) :
    sameEntries xs (Entries.erase key ys) = sameEntries xs ys := by
  induction xs with
  | nil => rfl
  | cons x xs ih =>
      obtain ⟨hne, hrest⟩ := not_or.mp (mt List.mem_cons.mpr hfresh)
      rw [sameEntries, sameEntries, Entries.find?_erase_of_ne (Ne.symm hne), ih hrest]

/-- Entries that all have an equal one on the other side are, in some order of that side, equal one
by one. -/
theorem exists_perm_of_sameEntries {xs ys : List (String × Value)} (hkeys : (Entries.keys xs).Nodup)
    (hlength : xs.length = ys.length) (h : sameEntries xs ys = true) :
    ∃ zs, List.Forall₂ (EntryRelated fun v w => v.same w = true) xs zs ∧ zs.Perm ys := by
  induction xs generalizing ys with
  | nil => exact ⟨[], .nil, by rw [List.length_eq_zero_iff.mp hlength.symm]⟩
  | cons x xs ih =>
      obtain ⟨key, v⟩ := x
      obtain ⟨hfresh, hrest⟩ := List.nodup_cons.mp hkeys
      obtain ⟨hfirst, hothers⟩ := Bool.and_eq_true_iff.mp h
      cases hfind : Entries.find? key ys with
      | none => simp [hfind] at hfirst
      | some w =>
          have hperm := Entries.perm_cons_erase hfind
          have hsame : v.same w = true := by simpa [hfind] using hfirst
          have hlength' : xs.length = (Entries.erase key ys).length := by
            simpa [← hperm.length_eq] using hlength
          obtain ⟨zs, hzs, hothersPerm⟩ := ih hrest hlength' ((sameEntries_erase hfresh).trans hothers)
          exact ⟨(key, w) :: zs, .cons ⟨rfl, hsame⟩ hzs, (hothersPerm.cons _).trans hperm⟩

theorem forall₂_of_sameItems {xs ys : List Value} (h : sameItems xs ys = true) :
    List.Forall₂ (fun v w => v.same w = true) xs ys := by
  induction xs generalizing ys with
  | nil =>
      cases ys with
      | nil => exact .nil
      | cons y ys => cases h
  | cons x xs ih =>
      cases ys with
      | nil => cases h
      | cons y ys =>
          obtain ⟨hfirst, hrest⟩ := Bool.and_eq_true_iff.mp h
          exact .cons hfirst (ih hrest)

theorem eq_or_zeros_of_same {v w : Value} (hitems : v.items? = none) (hentries : v.entries? = none)
    (h : v.same w = true) :
    v = w ∨ ∃ s t, v = .number (.zero s) ∧ w = .number (.zero t) := by
  cases v with
  | number x =>
      cases w with
      | number y =>
          rcases Binary64.eq_or_zeros_of_same h with rfl | ⟨s, t, rfl, rfl⟩
          · exact .inl rfl
          · exact .inr ⟨s, t, rfl, rfl⟩
      | _ => cases h
  | array xs => cases hitems
  | object xs => cases hentries
  | _ => cases w <;> simp_all [same]

/-- Induction over a value without repeated keys and one that is equal to it. Arrays are related
item by item, and objects entry by entry when the entries of one have been put into some order. -/
@[elab_as_elim] theorem same_induction {motive : Value → Value → Prop}
    (scalar : ∀ v, v.items? = none → v.entries? = none → motive v v)
    (zero : ∀ s t, motive (.number (.zero s)) (.number (.zero t)))
    (array : ∀ xs ys, List.Forall₂ motive xs ys → motive (.array xs) (.array ys))
    (object : ∀ xs zs ys, List.Forall₂ (EntryRelated motive) xs zs → zs.Perm ys →
      (Entries.keys ys).Nodup → motive (.object xs) (.object ys))
    {v w : Value} (hv : v.WellFormed) (h : v.same w = true) : motive v w := by
  induction v using nested_induction generalizing w with
  | array xs ih =>
      cases w with
      | array ys =>
          have hitems : ∀ x ∈ xs, ∀ w, x.same w = true → motive x w :=
            fun x hx w hw => ih x hx (allWellFormed_iff.mp hv x hx) hw
          refine array xs ys (List.Forall₂.imp ?_
            ((List.forall₂_and_left xs ys).mpr ⟨hitems, forall₂_of_sameItems h⟩))
          exact fun x y hxy => hxy.1 y hxy.2
      | _ => cases h
  | object xs ih =>
      cases w with
      | object ys =>
          obtain ⟨hlength, hentries⟩ := Bool.and_eq_true_iff.mp h
          obtain ⟨zs, hzs, hperm⟩ := exists_perm_of_sameEntries hv.1 (beq_iff_eq.mp hlength) hentries
          have hvalues : ∀ x ∈ xs, ∀ w, x.2.same w = true → motive x.2 w :=
            fun x hx w hw => ih x hx (entriesWellFormed_iff.mp hv.2 x hx) hw
          have hkeys : (Entries.keys ys).Nodup := by
            refine (hperm.map Prod.fst).nodup_iff.mp ?_
            rw [← Entries.keys, ← keys_eq_of_related hzs]
            exact hv.1
          refine object xs zs ys (List.Forall₂.imp ?_
            ((List.forall₂_and_left xs zs).mpr ⟨hvalues, hzs⟩)) hperm hkeys
          exact fun x z hxz => ⟨hxz.2.1, hxz.1 z.2 hxz.2.2⟩
      | _ => cases h
  | scalar v hitems hentries =>
      rcases eq_or_zeros_of_same hitems hentries h with rfl | ⟨s, t, rfl, rfl⟩
      · exact scalar v hitems hentries
      · exact zero s t

end Value

end SnippetBridge
