import SnippetBridge.Proofs.Host.Reachability
import SnippetBridge.Proofs.Host.WellFormed

/-!
Graphs and the trees that are seen in them. The unfolding of an item has a copy of a node for each
place that holds it, so it shows nothing of identities and sharing. Trees that differ in the order
of entries only are *alike*; in a heap whose objects are maps no key is repeated, and neither is one
in an unfolding.
-/

namespace SnippetBridge.Host

namespace Heap

mutual

/-- The tree that is seen from an item. What is not in the heap is undefined. -/
inductive Unfolds (heap : Heap) : Item → Tree → Prop
  | leaf (leaf : Leaf) : Unfolds heap (.leaf leaf) (.leaf leaf)
  | missing {id : NodeId} (hnode : heap.node? id = none) :
      Unfolds heap (.node id) (.leaf .undefined)
  | array {id : NodeId} {items : List Item} {trees : List Tree}
      (hnode : heap.node? id = some (.array items)) (hitems : UnfoldsItems heap items trees) :
      Unfolds heap (.node id) (.array trees)
  | object {id : NodeId} {entries : List (String × Item)} {trees : List (String × Tree)}
      (hnode : heap.node? id = some (.object entries))
      (hentries : UnfoldsEntries heap entries trees) : Unfolds heap (.node id) (.object trees)

inductive UnfoldsItems (heap : Heap) : List Item → List Tree → Prop
  | nil : UnfoldsItems heap [] []
  | cons {item : Item} {tree : Tree} {items : List Item} {trees : List Tree}
      (hitem : Unfolds heap item tree) (hrest : UnfoldsItems heap items trees) :
      UnfoldsItems heap (item :: items) (tree :: trees)

inductive UnfoldsEntries (heap : Heap) : List (String × Item) → List (String × Tree) → Prop
  | nil : UnfoldsEntries heap [] []
  | cons {key : String} {item : Item} {tree : Tree} {entries : List (String × Item)}
      {trees : List (String × Tree)} (hitem : Unfolds heap item tree)
      (hrest : UnfoldsEntries heap entries trees) :
      UnfoldsEntries heap ((key, item) :: entries) ((key, tree) :: trees)

end

/-- An item that leads to no node that leads back to itself. -/
def Acyclic (heap : Heap) (item : Item) : Prop := ¬∃ id, heap.Sees item id ∧ heap.OnCycle id

end Heap

namespace Tree

mutual

def WellFormed : Tree → Prop
  | .leaf _ => True
  | .array items => ItemsWellFormed items
  | .object entries => (Entries.keys entries).Nodup ∧ EntriesWellFormed entries

def ItemsWellFormed : List Tree → Prop
  | [] => True
  | item :: rest => WellFormed item ∧ ItemsWellFormed rest

def EntriesWellFormed : List (String × Tree) → Prop
  | [] => True
  | (_, tree) :: rest => WellFormed tree ∧ EntriesWellFormed rest

end

mutual

/-- Two trees that are equal but for the order of the entries of their objects, at any depth. -/
inductive Alike : Tree → Tree → Prop
  | leaf (leaf : Leaf) : Alike (.leaf leaf) (.leaf leaf)
  | array {xs ys : List Tree} (hitems : AlikeItems xs ys) : Alike (.array xs) (.array ys)
  | object {xs ys zs : List (String × Tree)} (hentries : AlikeEntries xs ys)
      (horder : ys.Perm zs) : Alike (.object xs) (.object zs)

inductive AlikeItems : List Tree → List Tree → Prop
  | nil : AlikeItems [] []
  | cons {x y : Tree} {xs ys : List Tree} (hitem : Alike x y) (hrest : AlikeItems xs ys) :
      AlikeItems (x :: xs) (y :: ys)

inductive AlikeEntries : List (String × Tree) → List (String × Tree) → Prop
  | nil : AlikeEntries [] []
  | cons {key : String} {x y : Tree} {xs ys : List (String × Tree)} (hvalue : Alike x y)
      (hrest : AlikeEntries xs ys) : AlikeEntries ((key, x) :: xs) ((key, y) :: ys)

end

end Tree

namespace Heap

variable {heap : Heap}

mutual

/-- An item has one unfolding at most. -/
theorem Unfolds.unique {item : Item} {s t : Tree} (hs : heap.Unfolds item s)
    (ht : heap.Unfolds item t) : s = t := by
  cases hs with
  | leaf leaf => cases ht; rfl
  | missing hnode =>
      cases ht with
      | missing _ => rfl
      | array hother _ => simp [hnode] at hother
      | object hother _ => simp [hnode] at hother
  | array hnode hitems =>
      cases ht with
      | missing hother => simp [hnode] at hother
      | array hother hitems' =>
          rw [hnode] at hother
          cases hother
          rw [hitems.unique hitems']
      | object hother _ => simp [hnode] at hother
  | object hnode hentries =>
      cases ht with
      | missing hother => simp [hnode] at hother
      | array hother _ => simp [hnode] at hother
      | object hother hentries' =>
          rw [hnode] at hother
          cases hother
          rw [hentries.unique hentries']

theorem UnfoldsItems.unique {items : List Item} {xs ys : List Tree}
    (hxs : heap.UnfoldsItems items xs) (hys : heap.UnfoldsItems items ys) : xs = ys := by
  cases hxs with
  | nil => cases hys; rfl
  | cons hitem hrest =>
      cases hys with
      | cons hitem' hrest' => rw [hitem.unique hitem', hrest.unique hrest']

theorem UnfoldsEntries.unique {entries : List (String × Item)} {xs ys : List (String × Tree)}
    (hxs : heap.UnfoldsEntries entries xs) (hys : heap.UnfoldsEntries entries ys) : xs = ys := by
  cases hxs with
  | nil => cases hys; rfl
  | cons hitem hrest =>
      cases hys with
      | cons hitem' hrest' => rw [hitem.unique hitem', hrest.unique hrest']

end

theorem UnfoldsEntries.keys_eq {entries : List (String × Item)} {trees : List (String × Tree)}
    (h : heap.UnfoldsEntries entries trees) : Entries.keys trees = Entries.keys entries := by
  cases h with
  | nil => rfl
  | cons _ hrest => rw [Entries.keys_cons, Entries.keys_cons, hrest.keys_eq]

mutual

/-- An unfolding repeats no key if no object of the heap does. -/
theorem Unfolds.wellFormed {item : Item} {tree : Tree} (hheap : heap.WellFormed)
    (h : heap.Unfolds item tree) : tree.WellFormed := by
  cases h with
  | leaf leaf => trivial
  | missing hnode => trivial
  | array hnode hitems => exact hitems.wellFormed hheap
  | object hnode hentries =>
      exact ⟨hentries.keys_eq ▸ hheap _ _ hnode, hentries.wellFormed hheap⟩

theorem UnfoldsItems.wellFormed {items : List Item} {trees : List Tree} (hheap : heap.WellFormed)
    (h : heap.UnfoldsItems items trees) : Tree.ItemsWellFormed trees := by
  cases h with
  | nil => trivial
  | cons hitem hrest => exact ⟨hitem.wellFormed hheap, hrest.wellFormed hheap⟩

theorem UnfoldsEntries.wellFormed {entries : List (String × Item)} {trees : List (String × Tree)}
    (hheap : heap.WellFormed) (h : heap.UnfoldsEntries entries trees) :
    Tree.EntriesWellFormed trees := by
  cases h with
  | nil => trivial
  | cons hitem hrest => exact ⟨hitem.wellFormed hheap, hrest.wellFormed hheap⟩

end

/-! ### Unfoldings end -/

theorem UnfoldsItems.exists_of_mem {items : List Item} {trees : List Tree} {item : Item}
    (h : heap.UnfoldsItems items trees) (hmem : item ∈ items) :
    ∃ tree ∈ trees, heap.Unfolds item tree := by
  cases h with
  | nil => cases hmem
  | cons hitem hrest =>
      rcases List.mem_cons.mp hmem with rfl | hmem
      · exact ⟨_, List.mem_cons_self, hitem⟩
      · obtain ⟨tree, htree, hunfolds⟩ := hrest.exists_of_mem hmem
        exact ⟨tree, List.mem_cons_of_mem _ htree, hunfolds⟩

theorem UnfoldsEntries.exists_of_mem {entries : List (String × Item)}
    {trees : List (String × Tree)} {entry : String × Item} (h : heap.UnfoldsEntries entries trees)
    (hmem : entry ∈ entries) :
    ∃ tree, (entry.1, tree) ∈ trees ∧ heap.Unfolds entry.2 tree := by
  cases h with
  | nil => cases hmem
  | cons hitem hrest =>
      rcases List.mem_cons.mp hmem with rfl | hmem
      · exact ⟨_, List.mem_cons_self, hitem⟩
      · obtain ⟨tree, htree, hunfolds⟩ := hrest.exists_of_mem hmem
        exact ⟨tree, List.mem_cons_of_mem _ htree, hunfolds⟩

/-- What a node holds unfolds to a part of what the node unfolds to. -/
theorem Unfolds.of_holds {parent child : NodeId} {s : Tree} (hs : heap.Unfolds (.node parent) s)
    (hholds : heap.Holds parent child) :
    ∃ t, heap.Unfolds (.node child) t ∧ sizeOf t < sizeOf s := by
  obtain ⟨node, hnode, hmem⟩ := hholds
  cases hs with
  | missing hother => simp [hnode] at hother
  | array hother hitems =>
      rw [hnode] at hother
      cases hother
      obtain ⟨t, ht, hunfolds⟩ := hitems.exists_of_mem hmem
      have hsize := List.sizeOf_lt_of_mem ht
      exact ⟨t, hunfolds, by simp only [Tree.array.sizeOf_spec]; omega⟩
  | object hother hentries =>
      rw [hnode] at hother
      cases hother
      obtain ⟨entry, hentry, hitem⟩ := List.mem_map.mp hmem
      obtain ⟨t, ht, hunfolds⟩ := hentries.exists_of_mem hentry
      have hsize := List.sizeOf_lt_of_mem ht
      simp only [Prod.mk.sizeOf_spec] at hsize
      exact ⟨t, hitem ▸ hunfolds, by simp only [Tree.object.sizeOf_spec]; omega⟩

theorem Unfolds.of_reaches {start id : NodeId} {s : Tree} (hs : heap.Unfolds (.node start) s)
    (hpath : Relation.ReflTransGen heap.Holds start id) : ∃ t, heap.Unfolds (.node id) t := by
  induction hpath with
  | refl => exact ⟨s, hs⟩
  | tail _ hholds ih =>
      obtain ⟨t, ht⟩ := ih
      obtain ⟨u, hu, -⟩ := ht.of_holds hholds
      exact ⟨u, hu⟩

theorem Unfolds.of_leads {start id : NodeId} {s : Tree} (hs : heap.Unfolds (.node start) s)
    (hpath : Relation.TransGen heap.Holds start id) :
    ∃ t, heap.Unfolds (.node id) t ∧ sizeOf t < sizeOf s := by
  induction hpath with
  | single hholds => exact hs.of_holds hholds
  | tail _ hholds ih =>
      obtain ⟨t, ht, hsize⟩ := ih
      obtain ⟨u, hu, hless⟩ := ht.of_holds hholds
      exact ⟨u, hu, hless.trans hsize⟩

/-- A node that leads back to itself would unfold to a part of its own unfolding. -/
theorem Unfolds.acyclic {item : Item} {tree : Tree} (h : heap.Unfolds item tree) :
    heap.Acyclic item := by
  rintro ⟨id, ⟨-, start, rfl, hpath⟩, hcycle⟩
  obtain ⟨s, hs⟩ := h.of_reaches hpath
  obtain ⟨t, ht, hless⟩ := hs.of_leads hcycle
  rw [ht.unique hs] at hless
  exact lt_irrefl _ hless

/-! ### The graph of a tree -/

/-- The other heap has every node of this one at the same place. -/
def Within (heap later : Heap) : Prop :=
  ∀ id node, heap.node? id = some node → later.node? id = some node

theorem Within.refl (heap : Heap) : heap.Within heap := fun _ _ hnode => hnode

theorem Within.trans {next later : Heap} (h : heap.Within next) (hnext : next.Within later) :
    heap.Within later :=
  fun id node hnode => hnext id node (h id node hnode)

theorem within_allocate (heap : Heap) (node : Node) : heap.Within (heap.allocate node).2 := by
  intro id found hfound
  have hlt := lt_size_of_node? hfound
  simp only [size] at hlt
  simp only [node?] at hfound
  simp only [allocate, node?, Array.getElem?_push]
  rw [if_neg (Nat.ne_of_lt hlt), hfound]

theorem node?_of_within_allocate {later : Heap} {node : Node}
    (h : (heap.allocate node).2.Within later) : later.node? heap.size = some node :=
  h heap.size node (by simp [allocate, node?, size])

mutual

theorem within_ofTree (heap : Heap) (tree : Tree) : heap.Within (heap.ofTree tree).2 := by
  cases tree with
  | leaf leaf => exact .refl heap
  | array trees => exact (within_ofItems heap trees).trans (within_allocate _ _)
  | object trees => exact (within_ofEntries heap trees).trans (within_allocate _ _)

theorem within_ofItems (heap : Heap) (trees : List Tree) :
    heap.Within (heap.ofItems trees).2 := by
  cases trees with
  | nil => exact .refl heap
  | cons tree rest => exact (within_ofTree heap tree).trans (within_ofItems _ rest)

theorem within_ofEntries (heap : Heap) (trees : List (String × Tree)) :
    heap.Within (heap.ofEntries trees).2 := by
  cases trees with
  | nil => exact .refl heap
  | cons entry rest =>
      exact (within_ofTree heap entry.2).trans (within_ofEntries _ rest)

end

mutual

/-- The graph of a tree unfolds to the tree, whatever is put next to it later. -/
theorem unfolds_ofTree {later : Heap} (heap : Heap) (tree : Tree)
    (h : (heap.ofTree tree).2.Within later) : later.Unfolds (heap.ofTree tree).1 tree := by
  cases tree with
  | leaf leaf => exact .leaf leaf
  | array trees =>
      refine .array (node?_of_within_allocate h) (unfoldsItems_ofItems heap trees ?_)
      exact (within_allocate _ _).trans h
  | object trees =>
      refine .object (node?_of_within_allocate h) (unfoldsEntries_ofEntries heap trees ?_)
      exact (within_allocate _ _).trans h

theorem unfoldsItems_ofItems {later : Heap} (heap : Heap) (trees : List Tree)
    (h : (heap.ofItems trees).2.Within later) :
    later.UnfoldsItems (heap.ofItems trees).1 trees := by
  cases trees with
  | nil => exact .nil
  | cons tree rest =>
      exact .cons (unfolds_ofTree heap tree ((within_ofItems _ rest).trans h))
        (unfoldsItems_ofItems (heap.ofTree tree).2 rest h)

theorem unfoldsEntries_ofEntries {later : Heap} (heap : Heap)
    (trees : List (String × Tree)) (h : (heap.ofEntries trees).2.Within later) :
    later.UnfoldsEntries (heap.ofEntries trees).1 trees := by
  cases trees with
  | nil => exact .nil
  | cons entry rest =>
      exact .cons (unfolds_ofTree heap entry.2 ((within_ofEntries _ rest).trans h))
        (unfoldsEntries_ofEntries (heap.ofTree entry.2).2 rest h)

end

end Heap

end SnippetBridge.Host
