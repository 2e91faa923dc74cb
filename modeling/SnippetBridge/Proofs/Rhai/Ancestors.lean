import SnippetBridge.Proofs.Rhai.Sharing

/-!
What the nodes that a walk is inside of are for. They can stop it, on a path that comes to one of
them or to some node twice, and they do nothing else: what a walk writes does not depend on them,
and it leaves them as it found them. The graph is no part of what a walk can change at all; it is
given to be read.
-/

namespace SnippetBridge.Rhai.Walk

open Host

variable {heap : Heap} {item : Item} {before fewer : List NodeId}

/-- An item is clear when no path from it comes to a node twice or to one of the given nodes. -/
theorem clear_iff_forall_path :
    Clear heap before item ↔
      ∀ ids, heap.Path item ids → ids.Nodup ∧ ∀ id ∈ ids, id ∉ before := by
  constructor
  · intro hclear ids hpath
    have hids (id) (hid : id ∈ ids) := hclear id (hpath.sees hid)
    exact ⟨hpath.nodup fun id hid => (hids id hid).2, fun id hid => (hids id hid).1⟩
  · intro hpaths target hsees
    constructor
    · obtain ⟨ids, hpath, hmem⟩ := Heap.exists_path_of_sees hsees
      exact (hpaths ids hpath).2 target hmem
    · intro hcycle
      obtain ⟨ids, hpath, htwice⟩ := Heap.exists_path_of_onCycle hsees hcycle
      exact htwice (hpaths ids hpath).1

theorem Clear.mono (h : Clear heap before item) (hfewer : fewer ⊆ before) :
    Clear heap fewer item :=
  fun target hsees => ⟨fun hmem => (h target hsees).1 (hfewer hmem), (h target hsees).2⟩

/-- When a walk succeeds it is inside of the same nodes as before, and from inside of any of these
only it would have succeeded too and written the same. It fails exactly if some path from the item
comes to a node twice or to a node that the walk is inside of already, and then with a circular
reference. This is a walk with a budget of one for each node or more: it is never used up, for that
would be another error, and whatever is on top of the nodes makes no difference. -/
theorem text_ancestors (options : Options) (heap : Heap) (room depth : Nat) (item : Item)
    (before : List NodeId) :
    (∀ literal after,
        text options heap (heap.size + room) depth item before = .ok (literal, after) →
          after = before ∧
            ∀ fewer ⊆ before,
              text options heap (heap.size + room) depth item fewer = .ok (literal, fewer)) ∧
      (∀ e, text options heap (heap.size + room) depth item before = .error e ↔
        e = .circularReference ∧
          ∃ ids, heap.Path item ids ∧ (¬ids.Nodup ∨ ∃ id ∈ ids, id ∈ before)) ∧
      text options heap (heap.size + room) depth item before =
        text options heap heap.size depth item before := by
  have hroom (inside : List NodeId) : (heap.unvisited inside).card ≤ heap.size + room :=
    (heap.card_unvisited_le inside).trans (Nat.le_add_right _ _)
  have hsucceeds (inside : List NodeId) :
      Succeeds (text options heap (heap.size + room) depth item) inside ↔
        Clear heap inside item :=
    succeeds_text_iff (hroom inside) depth
  refine ⟨?_, ?_, text_budget_congr (hroom before) depth heap.size (heap.card_unvisited_le before)⟩
  · intro literal after hrun
    obtain rfl : after = before := text_restores _ _ _ _ _ before literal after hrun
    refine ⟨rfl, fun fewer hfewer => ?_⟩
    have hclear : Clear heap after item := (hsucceeds after).mp ⟨literal, hrun⟩
    obtain ⟨literal', hother⟩ := (hsucceeds fewer).mpr (hclear.mono hfewer)
    obtain ⟨tree, htree, rfl⟩ := text_shows _ _ _ _ _ _ _ _ hrun
    rw [hother, eq_treeText_of_text htree hother]
  · intro e
    rw [text_eq_error_iff (hroom before), clear_iff_forall_path]
    simp only [not_forall, exists_prop, not_and_or, not_not]

/-- An array of an empty array and the same one again, as it is walked from inside of a node that
holds it and on its own. -/
theorem text_ancestors_shared :
    let heap : Heap := ⟨#[.array [], .array [.node 0, .node 0], .array [.node 1]]⟩
    text .standard heap (heap.size + 0) 1 (.node 1) [2] =
        .ok ("[\n    [],\n    []\n  ]".toList, [2]) ∧
      text .standard heap (heap.size + 0) 1 (.node 1) [] =
        .ok ("[\n    [],\n    []\n  ]".toList, []) := by
  intro heap
  have hrun : text .standard heap (heap.size + 0) 1 (.node 1) [2] =
      .ok ("[\n    [],\n    []\n  ]".toList, [2]) := by rfl
  exact ⟨hrun, ((text_ancestors .standard heap 0 1 (.node 1) [2]).1 _ _ hrun).2 [] (by simp)⟩

end SnippetBridge.Rhai.Walk
