import Mathlib.Data.Finset.Basic
import Mathlib.Data.Finset.Card
import Mathlib.Data.List.Chain
import Mathlib.Logic.Relation
import SnippetBridge.Host.Heap

/-!
What can be reached in a graph of host values. A node holds its items; an item *sees* the nodes
that it leads to in any number of steps. Nothing is assumed about the shape of the graph, which may
share nodes and run in circles.
-/

namespace SnippetBridge.Host

/-- The items of an array, or the values of an object, in order. -/
def Node.items : Node → List Item
  | .array items => items
  | .object entries => entries.map Prod.snd

namespace Heap

/-- One node has the other among its items. -/
def Holds (heap : Heap) (parent child : NodeId) : Prop :=
  ∃ node, heap.node? parent = some node ∧ Item.node child ∈ node.items

/-- A node of the heap that an item leads to; a node leads to itself. -/
def Sees (heap : Heap) (item : Item) (id : NodeId) : Prop :=
  (heap.node? id).isSome ∧
    ∃ start, item = .node start ∧ Relation.ReflTransGen heap.Holds start id

/-- A node that can reach itself in at least one step. -/
def OnCycle (heap : Heap) (id : NodeId) : Prop := Relation.TransGen heap.Holds id id

/-- A leaf that an item leads to; a leaf leads to itself. -/
inductive Meets (heap : Heap) : Item → Leaf → Prop
  | leaf (leaf : Leaf) : Meets heap (.leaf leaf) leaf
  | step {id : NodeId} {node : Node} {child : Item} {leaf : Leaf}
      (hnode : heap.node? id = some node) (hchild : child ∈ node.items)
      (hleaf : Meets heap child leaf) : Meets heap (.node id) leaf

/-- An item that stands so many levels inside of another one, which is at level zero itself. -/
inductive Nests (heap : Heap) : Item → Nat → Item → Prop
  | self (item : Item) : Nests heap item 0 item
  | step {id : NodeId} {node : Node} {child inner : Item} {levels : Nat}
      (hnode : heap.node? id = some node) (hchild : child ∈ node.items)
      (hinner : Nests heap child levels inner) : Nests heap (.node id) (levels + 1) inner

/-- Nodes on a way down from an item, one after the other: the first of them is the item, and each
holds the next one. -/
structure Path (heap : Heap) (item : Item) (ids : List NodeId) : Prop where
  start : ∀ id ∈ ids.head?, item = .node id
  steps : ids.IsChain heap.Holds
  live : ∀ id ∈ ids, (heap.node? id).isSome

/-- The nodes of the heap that are not among the given ones. -/
def unvisited (heap : Heap) (visited : List NodeId) : Finset NodeId :=
  Finset.range heap.size \ visited.toFinset

variable {heap : Heap} {id target : NodeId} {node : Node} {item : Item}

theorem lt_size_of_node? (hnode : heap.node? id = some node) : id < heap.size := by
  simp only [node?] at hnode
  exact (Array.getElem?_eq_some_iff.mp hnode).1

theorem at?_eq_some_iff :
    heap.at? item = some (id, node) ↔ item = .node id ∧ heap.node? id = some node := by
  cases item with
  | leaf leaf => simp [at?]
  | node other =>
      simp only [at?, Option.map_eq_some_iff, Prod.mk.injEq, Item.node.injEq]
      constructor
      · rintro ⟨_, hnode, rfl, rfl⟩
        exact ⟨rfl, hnode⟩
      · rintro ⟨rfl, hnode⟩
        exact ⟨node, hnode, rfl, rfl⟩

theorem not_sees_of_at?_eq_none (hitem : heap.at? item = none) : ¬heap.Sees item target := by
  rintro ⟨hlive, start, rfl, hpath⟩
  have hnode : heap.node? start = none := by simpa [at?] using hitem
  rcases hpath.cases_head with rfl | ⟨_, ⟨_, hsome, _⟩, _⟩
  · simp [hnode] at hlive
  · simp [hnode] at hsome

/-- A node sees itself and what its items see. -/
theorem sees_node_iff (hnode : heap.node? id = some node) :
    heap.Sees (.node id) target ↔ target = id ∨ ∃ child ∈ node.items, heap.Sees child target := by
  constructor
  · rintro ⟨hlive, start, hitem, hpath⟩
    cases hitem
    rcases hpath.cases_head with rfl | ⟨next, ⟨held, hheld, hmem⟩, hrest⟩
    · exact .inl rfl
    · rw [hnode] at hheld
      cases hheld
      exact .inr ⟨.node next, hmem, hlive, next, rfl, hrest⟩
  · rintro (rfl | ⟨child, hmem, hlive, start, rfl, hpath⟩)
    · exact ⟨by simp [hnode], target, rfl, .refl⟩
    · exact ⟨hlive, id, rfl, .head ⟨node, hnode, hmem⟩ hpath⟩

theorem meets_leaf_iff {leaf other : Leaf} : heap.Meets (.leaf leaf) other ↔ other = leaf := by
  constructor
  · rintro ⟨⟩
    rfl
  · rintro rfl
    exact .leaf _

theorem meets_node_iff (hnode : heap.node? id = some node) {leaf : Leaf} :
    heap.Meets (.node id) leaf ↔ ∃ child ∈ node.items, heap.Meets child leaf := by
  constructor
  · rintro (_ | ⟨hother, hchild, hleaf⟩)
    rw [hnode] at hother
    cases hother
    exact ⟨_, hchild, hleaf⟩
  · rintro ⟨child, hchild, hleaf⟩
    exact .step hnode hchild hleaf

/-- A node is on a cycle when one of its items leads back to it. -/
theorem onCycle_iff (hnode : heap.node? id = some node) :
    heap.OnCycle id ↔ ∃ child ∈ node.items, heap.Sees child id := by
  constructor
  · intro hcycle
    obtain ⟨next, ⟨held, hheld, hmem⟩, hrest⟩ := Relation.TransGen.head'_iff.mp hcycle
    rw [hnode] at hheld
    cases hheld
    exact ⟨.node next, hmem, by simp [hnode], next, rfl, hrest⟩
  · rintro ⟨child, hmem, _, start, rfl, hpath⟩
    exact Relation.TransGen.head' ⟨node, hnode, hmem⟩ hpath

theorem mem_unvisited (hnode : heap.node? id = some node) {visited : List NodeId}
    (hfresh : id ∉ visited) : id ∈ heap.unvisited visited := by
  simp [unvisited, lt_size_of_node? hnode, hfresh]

/-- Visiting one more node leaves one node less to visit. -/
theorem card_unvisited_cons (hnode : heap.node? id = some node) {visited : List NodeId}
    (hfresh : id ∉ visited) :
    (heap.unvisited (id :: visited)).card + 1 = (heap.unvisited visited).card := by
  have hrest : heap.unvisited (id :: visited) = (heap.unvisited visited).erase id := by
    ext other
    simp only [unvisited, Finset.mem_sdiff, Finset.mem_erase, List.mem_toFinset, List.mem_cons]
    tauto
  rw [hrest]
  exact Finset.card_erase_add_one (mem_unvisited hnode hfresh)

/-- With no node left to visit, every node of the heap has been visited. -/
theorem mem_of_card_unvisited_eq_zero (hnode : heap.node? id = some node) {visited : List NodeId}
    (hnone : (heap.unvisited visited).card = 0) : id ∈ visited := by
  by_contra hfresh
  have hcard := card_unvisited_cons hnode hfresh
  omega

@[simp] theorem card_unvisited_nil : (heap.unvisited []).card = heap.size := by
  simp [unvisited]

theorem card_unvisited_le (heap : Heap) (visited : List NodeId) :
    (heap.unvisited visited).card ≤ heap.size := by
  calc
    (heap.unvisited visited).card ≤ (Finset.range heap.size).card :=
      Finset.card_le_card Finset.sdiff_subset
    _ = heap.size := Finset.card_range heap.size

/-! ### Paths -/

variable {start : NodeId} {ids : List NodeId}

/-- Each node of a path leads to all the nodes behind it. -/
theorem Path.pairwise (h : heap.Path item ids) : ids.Pairwise (Relation.TransGen heap.Holds) :=
  (h.steps.imp fun _ _ => .single).pairwise

theorem Path.sees (h : heap.Path item ids) (hid : id ∈ ids) : heap.Sees item id := by
  refine ⟨h.live id hid, ?_⟩
  cases ids with
  | nil => cases hid
  | cons first rest =>
      refine ⟨first, h.start first rfl, ?_⟩
      rcases List.mem_cons.mp hid with rfl | hrest
      · exact .refl
      · exact ((List.pairwise_cons.mp h.pairwise).1 id hrest).to_reflTransGen

/-- A path that comes to no node on a cycle comes to no node twice. -/
theorem Path.nodup (h : heap.Path item ids) (hcycle : ∀ id ∈ ids, ¬heap.OnCycle id) :
    ids.Nodup := by
  refine h.pairwise.imp_of_mem fun {first later} hfirst _ hleads => ?_
  rintro rfl
  exact hcycle first hfirst hleads

theorem Path.single (hlive : (heap.node? id).isSome) : heap.Path (.node id) [id] where
  start := by simp
  steps := .singleton id
  live := by simpa using hlive

theorem Path.cons {next : NodeId} (hholds : heap.Holds start next)
    (h : heap.Path (.node next) ids) : heap.Path (.node start) (start :: ids) where
  start := by simp
  steps := by
    refine List.isChain_cons.mpr ⟨fun id hid => ?_, h.steps⟩
    cases h.start id hid
    exact hholds
  live := by
    obtain ⟨node, hnode, -⟩ := hholds
    exact List.forall_mem_cons.mpr ⟨by simp [hnode], h.live⟩

/-- A path goes on from wherever its first node can be reached from. -/
theorem Path.of_reaches (hreach : Relation.ReflTransGen heap.Holds start id)
    (h : heap.Path (.node id) ids) : ∃ front, heap.Path (.node start) (front ++ ids) := by
  induction hreach using Relation.ReflTransGen.head_induction_on with
  | refl => exact ⟨[], h⟩
  | @head first next hholds _ ih =>
      obtain ⟨front, hfront⟩ := ih
      exact ⟨first :: front, hfront.cons hholds⟩

theorem exists_path_of_sees (h : heap.Sees item id) : ∃ ids, heap.Path item ids ∧ id ∈ ids := by
  obtain ⟨hlive, start, rfl, hreach⟩ := h
  obtain ⟨front, hpath⟩ := (Path.single hlive).of_reaches hreach
  exact ⟨front ++ [id], hpath, by simp⟩

/-- From wherever a node on a cycle is seen, some path comes to it twice. -/
theorem exists_path_of_onCycle (h : heap.Sees item id) (hcycle : heap.OnCycle id) :
    ∃ ids, heap.Path item ids ∧ ¬ids.Nodup := by
  obtain ⟨hlive, start, rfl, hreach⟩ := h
  obtain ⟨next, hholds, hback⟩ := Relation.TransGen.head'_iff.mp hcycle
  obtain ⟨around, haround⟩ := (Path.single hlive).of_reaches hback
  obtain ⟨front, hpath⟩ := (haround.cons hholds).of_reaches hreach
  refine ⟨_, hpath, fun hnodup => ?_⟩
  have hround := (List.nodup_append.mp hnodup).2.1
  simp at hround

end Heap

end SnippetBridge.Host
