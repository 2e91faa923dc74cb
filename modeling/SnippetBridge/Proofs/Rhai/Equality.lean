import SnippetBridge.Proofs.Json.Equality
import SnippetBridge.Proofs.Rhai.Literal

/-!
Equal values are written alike. A literal sorts the entries of its object maps and drops the sign of
a zero, so it shows nothing of the two respects in which equal values may differ; in the JSON forms
only the order of fields is left of them.
-/

namespace SnippetBridge.Rhai

open Value

/-- Lists with the same images one by one have the same list of images. -/
theorem map_eq_of_forall₂ {α β : Type} {f : α → β} {xs ys : List α}
    (h : List.Forall₂ (fun x y => f x = f y) xs ys) : xs.map f = ys.map f := by
  rw [← List.forall₂_eq_eq_eq]
  exact List.forall₂_map_left_iff.mpr (List.forall₂_map_right_iff.mpr h)

/-- Equal values have the same literal at every level. -/
theorem valueText_eq_of_same (options : Options) {v w : Value} (hv : v.WellFormed)
    (h : v.same w = true) : ∀ depth, valueText options depth v = valueText options depth w := by
  refine same_induction ?scalar ?zero ?array ?object hv h
  case scalar =>
    intro v _ _ depth
    rfl
  case zero =>
    intro s t depth
    show numberText options (.zero s) = numberText options (.zero t)
    rw [numberText_of_isFinite options rfl, numberText_of_isFinite options rfl]
    rfl
  case array =>
    intro xs ys hitems depth
    rw [valueText_array, valueText_array,
      map_eq_of_forall₂ (hitems.imp fun x y hxy => hxy (depth + 1))]
  case object =>
    intro xs zs ys hentries horder hkeys depth
    let line : String × Value → String × List Char :=
      fun entry => (entry.1, valueText options (depth + 1) entry.2)
    have hlines : xs.map line = zs.map line :=
      map_eq_of_forall₂ (hentries.imp fun x z hxz => Prod.ext hxz.1 (hxz.2 (depth + 1)))
    have hkeys' : (Entries.keys (ys.map line)).Nodup := by
      simpa [Entries.keys, line, Function.comp_def] using hkeys
    rw [valueText_object_eq, valueText_object_eq]
    show objectText options depth (xs.map line) = objectText options depth (ys.map line)
    rw [hlines, objectText_congr hkeys' (horder.map line).symm]

/-- Values that are equal as data, whatever the order of entries is in their objects, have the same
literal for all options, and their JSON forms are equal as data too. -/
theorem render_eq_of_same {v w : Value} (hv : v.WellFormed) (h : v.same w = true) :
    (∀ options, render options v = render options w) ∧ v.toJson.same w.toJson = true := by
  refine ⟨fun options => ?_, toJson_same hv h⟩
  have htext : treeText options 0 (.ofValue v) = treeText options 0 (.ofValue w) :=
    valueText_eq_of_same options hv h 0
  rw [render, render, renderTree, renderTree, htext]

/-- A zero with a sign and one without, and entries in another order at two levels. -/
theorem render_eq_of_same_reordered :
    let v : Value := .object [("b", .number (.zero true)),
      ("a", .array [.object [("y", .unknown), ("x", .reference "app.id")]])]
    let w : Value := .object [("a", .array [.object [("x", .reference "app.id"), ("y", .unknown)]]),
      ("b", .number (.zero false))]
    v.WellFormed ∧ v.same w = true ∧
      (∀ options, render options v = render options w) ∧ v.toJson.same w.toJson = true := by
  intro v w
  have hv : v.WellFormed := by simp [v, WellFormed, EntriesWellFormed, AllWellFormed]
  have hsame : v.same w = true := by decide
  exact ⟨hv, hsame, render_eq_of_same hv hsame⟩

end SnippetBridge.Rhai
