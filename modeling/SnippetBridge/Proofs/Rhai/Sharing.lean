import SnippetBridge.Proofs.Host.Unfolding
import SnippetBridge.Proofs.Rhai.Circularity
import SnippetBridge.Proofs.Rhai.Literal

/-!
The literal of a graph is the literal of the tree that is seen in it, so it shows nothing of which
nodes there are and which of them are shared. A walk that succeeds has come along every way down
from the root, and has found itself inside of the same nodes again after each of them; the entries
of an object are sorted, so their order is not shown either.
-/

namespace SnippetBridge.Rhai

open Host

namespace Walk

variable {α β : Type} {options : Options} {heap : Heap} {budget depth : Nat} {id : NodeId}
  {node : Node} {item : Item} {before after : List NodeId}

/-! ### What a walk that succeeds has done -/

/-- A walk over a list has walked over each item from where it began. -/
theorem forall₂_of_mapM_eq_ok {f : α → Walk β} (hf : ∀ a, Restores (f a)) {items : List α}
    {results : List β} (hrun : items.mapM f before = .ok (results, after)) :
    List.Forall₂ (fun a b => f a before = .ok (b, before)) items results := by
  induction items generalizing results with
  | nil =>
      simp only [List.mapM_nil] at hrun
      cases hrun
      exact .nil
  | cons a rest ih =>
      rw [mapM_cons_apply hf] at hrun
      cases hfirst : f a before with
      | error e => simp [hfirst] at hrun
      | ok r =>
          rw [hfirst] at hrun
          obtain ⟨others, hothers, rfl⟩ := map_eq_ok_iff.mp hrun
          exact .cons (by rw [hfirst, ← hf a before r.1 r.2 hfirst]) (ih hothers)

/-! ### The tree that a walk writes -/

/-- Whenever the walk over an item succeeds, it has written a tree that is seen from the item. -/
def Shows (options : Options) (heap : Heap) (budget depth : Nat) (item : Item) : Prop :=
  ∀ before literal after, text options heap budget depth item before = .ok (literal, after) →
    ∃ tree, heap.Unfolds item tree ∧ literal = treeText options depth tree

theorem shows_of_at?_eq_none (hitem : heap.at? item = none) :
    Shows options heap budget depth item := by
  intro before literal after hrun
  cases item with
  | leaf leaf =>
      unfold text at hrun
      cases hrun
      exact ⟨.leaf leaf, .leaf leaf, rfl⟩
  | node id =>
      have hnode : heap.node? id = none := by simpa [Heap.at?] using hitem
      refine ⟨.leaf .undefined, .missing hnode, ?_⟩
      unfold text at hrun
      simp only [hnode] at hrun
      cases hrun
      rfl

theorem exists_unfoldsItems {items : List Item} {texts : List (List Char)}
    (hshows : ∀ item, Shows options heap budget depth item)
    (hruns : List.Forall₂
      (fun item literal => text options heap budget depth item before = .ok (literal, before))
      items texts) :
    ∃ trees, heap.UnfoldsItems items trees ∧ texts = itemTexts options depth trees := by
  induction hruns with
  | nil => exact ⟨[], .nil, rfl⟩
  | cons hitem _ ih =>
      obtain ⟨tree, htree, rfl⟩ := hshows _ _ _ _ hitem
      obtain ⟨trees, htrees, rfl⟩ := ih
      exact ⟨tree :: trees, .cons htree htrees, rfl⟩

theorem exists_unfoldsEntries {entries : List (String × Item)}
    {texts : List (String × List Char)}
    (hshows : ∀ item, Shows options heap budget depth item)
    (hruns : List.Forall₂
      (fun entry line => entryText options heap budget depth entry before = .ok (line, before))
      entries texts) :
    ∃ trees, heap.UnfoldsEntries entries trees ∧ texts = entryTexts options depth trees := by
  induction hruns with
  | nil => exact ⟨[], .nil, rfl⟩
  | cons hentry _ ih =>
      obtain ⟨literal, hliteral, rfl⟩ := map_eq_ok_iff.mp hentry
      obtain ⟨tree, htree, rfl⟩ := hshows _ _ _ _ hliteral
      obtain ⟨trees, htrees, rfl⟩ := ih
      exact ⟨(_, tree) :: trees, .cons htree htrees, rfl⟩

/-- One step of the walk: what it writes of the items of a node it writes of the node. -/
theorem shows_node (hnode : heap.node? id = some node)
    (hshows : ∀ item, Shows options heap budget (depth + 1) item) :
    Shows options heap (budget + 1) depth (.node id) := by
  intro before literal after hrun
  rw [text_node hnode, within_eq_ok_iff (contentText_restores _ _ _ _ node)] at hrun
  obtain ⟨-, hcontent, -⟩ := hrun
  cases node with
  | array items =>
      have hrestores := text_restores options heap budget (depth + 1)
      obtain ⟨texts, htexts, rfl⟩ := map_eq_ok_iff.mp hcontent
      obtain ⟨trees, htrees, rfl⟩ :=
        exists_unfoldsItems hshows (forall₂_of_mapM_eq_ok hrestores htexts)
      exact ⟨.array trees, .array hnode htrees, by rw [treeText]⟩
  | object entries =>
      have hrestores := entryText_restores options heap budget (depth + 1)
      obtain ⟨texts, htexts, rfl⟩ := map_eq_ok_iff.mp hcontent
      obtain ⟨trees, htrees, rfl⟩ :=
        exists_unfoldsEntries hshows (forall₂_of_mapM_eq_ok hrestores htexts)
      exact ⟨.object trees, .object hnode htrees, by rw [treeText]⟩

/-- A run of the walk, by induction on the budget: what the walk has written when it succeeds is a
tree that is seen from the item. -/
theorem text_shows (options : Options) (heap : Heap) (budget depth : Nat) (item : Item) :
    Shows options heap budget depth item := by
  induction budget generalizing depth item with
  | zero =>
      rcases hitem : heap.at? item with _ | ⟨id, node⟩
      · exact shows_of_at?_eq_none hitem
      · obtain ⟨rfl, hnode⟩ := Heap.at?_eq_some_iff.mp hitem
        intro before literal after hrun
        rw [text_node hnode, within_eq_ok_iff (contentText_restores _ _ _ _ node)] at hrun
        cases hrun.2.1
  | succ budget ih =>
      rcases hitem : heap.at? item with _ | ⟨id, node⟩
      · exact shows_of_at?_eq_none hitem
      · obtain ⟨rfl, hnode⟩ := Heap.at?_eq_some_iff.mp hitem
        exact shows_node hnode (ih (depth + 1))

theorem clear_of_acyclic (h : heap.Acyclic item) : Clear heap [] item :=
  clear_nil_iff.mpr h

/-- Whatever a walk over an item writes is the literal of the one tree that is seen from it. -/
theorem eq_treeText_of_text {tree : Tree} (htree : heap.Unfolds item tree) {literal : List Char}
    (hrun : text options heap budget depth item before = .ok (literal, after)) :
    literal = treeText options depth tree := by
  obtain ⟨other, hother, rfl⟩ := text_shows options heap budget depth item _ _ _ hrun
  rw [hother.unique htree]

end Walk

theorem exists_unfolds_of_renderGraph {options : Options} {heap : Heap} {root : Item}
    {literal : String} (hrun : renderGraph options heap root = .ok literal) :
    ∃ tree, heap.Unfolds root tree ∧ literal = renderTree options tree := by
  change (Walk.text options heap heap.size 0 root [] >>= fun r => _) = _ at hrun
  cases hwalk : Walk.text options heap heap.size 0 root [] with
  | error e =>
      rw [hwalk] at hrun
      cases hrun
  | ok r =>
      obtain ⟨tree, htree, htext⟩ := Walk.text_shows options heap heap.size 0 root _ _ _ hwalk
      rw [hwalk] at hrun
      cases hrun
      exact ⟨tree, htree, by rw [renderTree, ← htext]⟩

/-- No walk stops where there are no cycles, and what it has written then is an unfolding. -/
theorem exists_unfolds_of_acyclic (options : Options) {heap : Heap} {root : Item}
    (hroot : heap.Acyclic root) :
    ∃ tree, heap.Unfolds root tree ∧
      renderGraph options heap root = .ok (renderTree options tree) := by
  have hclear := Walk.clear_of_acyclic hroot
  obtain ⟨literal, hrun⟩ :=
    exists_renderGraph_eq_ok_iff.mpr ((Walk.succeeds_text_iff (by simp) 0).mpr hclear)
  obtain ⟨tree, htree, rfl⟩ := exists_unfolds_of_renderGraph hrun
  exact ⟨tree, htree, hrun⟩

/-- A graph that unfolds to a tree is rendered as the tree, whatever the options are. -/
theorem renderGraph_of_unfolds (options : Options) {heap : Heap} {root : Item} {tree : Tree}
    (htree : heap.Unfolds root tree) :
    renderGraph options heap root = .ok (renderTree options tree) := by
  obtain ⟨other, hother, hrun⟩ := exists_unfolds_of_acyclic options htree.acyclic
  rw [hrun, hother.unique htree]

/-- A tree is rendered as the graph is in which each array and object of it is a node of its own. -/
theorem renderGraph_ofTree (options : Options) (heap : Heap) (tree : Tree) :
    renderGraph options (heap.ofTree tree).2 (heap.ofTree tree).1 =
      .ok (renderTree options tree) :=
  renderGraph_of_unfolds options (Heap.unfolds_ofTree heap tree (.refl _))

theorem renderValue_eq_ok (options : Options) (v : Value) :
    renderValue options v = .ok (render options v) :=
  renderGraph_ofTree options .empty (.ofValue v)

/-! ### The order of entries -/

theorem entryTexts_eq (options : Options) (depth : Nat) (trees : List (String × Tree)) :
    entryTexts options depth trees =
      trees.map fun entry => (entry.1, treeText options depth entry.2) := by
  induction trees with
  | nil => rfl
  | cons entry rest ih => rw [entryTexts, ih, List.map_cons]

theorem keys_entryTexts (options : Options) (depth : Nat) (trees : List (String × Tree)) :
    Entries.keys (entryTexts options depth trees) = Entries.keys trees := by
  rw [entryTexts_eq, Entries.keys, List.map_map]
  rfl

mutual

/-- Trees that are alike have the same literal, if no key is repeated in them. -/
theorem treeText_eq_of_alike (options : Options) (depth : Nat) {s t : Tree} (hs : s.WellFormed)
    (h : s.Alike t) : treeText options depth s = treeText options depth t := by
  cases h with
  | leaf leaf => rfl
  | array hitems =>
      rw [treeText, treeText, itemTexts_eq_of_alike options (depth + 1) hs hitems]
  | @object xs ys zs hentries horder =>
      have htexts := entryTexts_eq_of_alike options (depth + 1) hs.2 hentries
      have hkeys : (Entries.keys (entryTexts options (depth + 1) ys)).Nodup := by
        rw [← htexts, keys_entryTexts]
        exact hs.1
      have hperm : (entryTexts options (depth + 1) ys).Perm
          (entryTexts options (depth + 1) zs) := by
        rw [entryTexts_eq, entryTexts_eq]
        exact horder.map _
      rw [treeText, treeText, htexts, objectText_congr hkeys hperm]

theorem itemTexts_eq_of_alike (options : Options) (depth : Nat) {xs ys : List Tree}
    (hxs : Tree.ItemsWellFormed xs) (h : Tree.AlikeItems xs ys) :
    itemTexts options depth xs = itemTexts options depth ys := by
  cases h with
  | nil => rfl
  | cons hitem hrest =>
      rw [itemTexts, itemTexts, treeText_eq_of_alike options depth hxs.1 hitem,
        itemTexts_eq_of_alike options depth hxs.2 hrest]

theorem entryTexts_eq_of_alike (options : Options) (depth : Nat) {xs ys : List (String × Tree)}
    (hxs : Tree.EntriesWellFormed xs) (h : Tree.AlikeEntries xs ys) :
    entryTexts options depth xs = entryTexts options depth ys := by
  cases h with
  | nil => rfl
  | cons hvalue hrest =>
      rw [entryTexts, entryTexts, treeText_eq_of_alike options depth hxs.1 hvalue,
        entryTexts_eq_of_alike options depth hxs.2 hrest]

end

/-- An item that leads to no cycle is rendered as the one tree that is seen from it, whatever the
options are. So are all items from which, up to the order of entries, the same tree is seen, though
they may be in another heap and share nodes in another way. -/
theorem renderGraph_of_acyclic {heap : Heap} {root : Item} (hroot : heap.Acyclic root) :
    ∃ tree, heap.Unfolds root tree ∧
      (∀ other, heap.Unfolds root other → other = tree) ∧
      (∀ options, renderGraph options heap root = .ok (renderTree options tree)) ∧
      ∀ heap' root' tree', heap.WellFormed → heap'.Unfolds root' tree' → tree.Alike tree' →
        ∀ options, renderGraph options heap' root' = renderGraph options heap root := by
  obtain ⟨tree, htree, -⟩ := exists_unfolds_of_acyclic .standard hroot
  have hrender (options) := renderGraph_of_unfolds options htree
  refine ⟨tree, htree, fun other hother => hother.unique htree, hrender, ?_⟩
  intro heap' root' tree' hheap htree' halike options
  rw [hrender, renderGraph_of_unfolds options htree', renderTree, renderTree,
    treeText_eq_of_alike options 0 (htree.wellFormed hheap) halike]

/-- An array that is held under two keys looks like two arrays that are held under these keys in
the other order. -/
theorem renderGraph_of_acyclic_diamond :
    ∃ tree,
      Heap.Unfolds ⟨#[.array [], .object [("b", .node 0), ("a", .node 0)]]⟩ (.node 1) tree ∧
        tree = .object [("b", .array []), ("a", .array [])] ∧
        ∀ options,
          renderGraph options ⟨#[.object [("a", .node 2), ("b", .node 1)], .array [], .array []]⟩
              (.node 0) =
            renderGraph options ⟨#[.array [], .object [("b", .node 0), ("a", .node 0)]]⟩
              (.node 1) := by
  have hshared :
      Heap.Unfolds ⟨#[.array [], .object [("b", .node 0), ("a", .node 0)]]⟩ (.node 1)
        (.object [("b", .array []), ("a", .array [])]) :=
    .object rfl (.cons (.array rfl .nil) (.cons (.array rfl .nil) .nil))
  have hcopied :
      Heap.Unfolds ⟨#[.object [("a", .node 2), ("b", .node 1)], .array [], .array []]⟩ (.node 0)
        (.object [("a", .array []), ("b", .array [])]) :=
    .object rfl (.cons (.array rfl .nil) (.cons (.array rfl .nil) .nil))
  have hheap : Heap.WellFormed ⟨#[.array [], .object [("b", .node 0), ("a", .node 0)]]⟩ :=
    (Heap.wellFormed_empty.allocate (by decide : (Node.array []).WellFormed)).allocate (by decide)
  have halike : Tree.Alike (.object [("b", .array []), ("a", .array [])])
      (.object [("a", .array []), ("b", .array [])]) :=
    .object (.cons (.array .nil) (.cons (.array .nil) .nil)) (.swap _ _ _)
  obtain ⟨tree, htree, hunique, -, hsame⟩ := renderGraph_of_acyclic hshared.acyclic
  obtain rfl := hunique _ hshared
  exact ⟨_, htree, rfl, hsame _ _ _ hheap hcopied halike⟩

end SnippetBridge.Rhai
