import SnippetBridge.Host.Leaf

/-!
Graphs of shared arrays and objects. Nodes live in a heap and are known by their place in it, so
that several parents may hold the same node and a node may come to hold itself.
-/

namespace SnippetBridge.Host

abbrev NodeId := Nat

inductive Item where
  | leaf (leaf : Leaf)
  | node (id : NodeId)
  deriving DecidableEq

inductive Node where
  | array (items : List Item)
  | object (entries : List (String × Item))

structure Heap where
  nodes : Array Node

namespace Item

/-- Which node an item is; scalars have no identity. -/
def identity? : Item → Option NodeId
  | .leaf _ => none
  | .node id => some id

end Item

namespace Heap

def empty : Heap := ⟨#[]⟩

def size (heap : Heap) : Nat := heap.nodes.size

def node? (heap : Heap) (id : NodeId) : Option Node := heap.nodes[id]?

def set (heap : Heap) (id : NodeId) (node : Node) : Heap := ⟨heap.nodes.setIfInBounds id node⟩

/-- A new node and the heap that holds it. -/
def allocate (heap : Heap) (node : Node) : Item × Heap := (.node heap.size, ⟨heap.nodes.push node⟩)

/-- The node that an item is. -/
def at? (heap : Heap) : Item → Option (NodeId × Node)
  | .leaf _ => none
  | .node id => (heap.node? id).map (id, ·)

/-- Changes the items of an array; no other item has any. -/
def modifyItems? (heap : Heap) (target : Item) (change : List Item → List Item) : Option Heap :=
  match heap.at? target with
  | some (id, .array items) => some (heap.set id (.array (change items)))
  | _ => none

/-- Changes the entries of an object; no other item has any. -/
def modifyEntries? (heap : Heap) (target : Item)
    (change : List (String × Item) → List (String × Item)) : Option Heap :=
  match heap.at? target with
  | some (id, .object entries) => some (heap.set id (.object (change entries)))
  | _ => none

def push? (heap : Heap) (target item : Item) : Option Heap :=
  heap.modifyItems? target (· ++ [item])

/-- Takes the last item away, if there is one. -/
def pop? (heap : Heap) (target : Item) : Option Heap := heap.modifyItems? target List.dropLast

def insert? (heap : Heap) (target : Item) (key : String) (item : Item) : Option Heap :=
  heap.modifyEntries? target (Entries.insert key item)

/-- Takes an entry away, if there is one, and keeps the others in order. -/
def remove? (heap : Heap) (target : Item) (key : String) : Option Heap :=
  heap.modifyEntries? target (Entries.erase key)

/-- Empties an array or an object. -/
def clear? (heap : Heap) (target : Item) : Option Heap :=
  (heap.modifyItems? target fun _ => []) <|> (heap.modifyEntries? target fun _ => [])

mutual

/-- A tree as a graph: every array and object of it becomes a node of its own. -/
def ofTree (heap : Heap) : Tree → Item × Heap
  | .leaf leaf => (.leaf leaf, heap)
  | .array items =>
    let (items, heap) := ofItems heap items
    heap.allocate (.array items)
  | .object entries =>
    let (entries, heap) := ofEntries heap entries
    heap.allocate (.object entries)

def ofItems (heap : Heap) : List Tree → List Item × Heap
  | [] => ([], heap)
  | tree :: rest =>
    let (item, heap) := ofTree heap tree
    let (items, heap) := ofItems heap rest
    (item :: items, heap)

def ofEntries (heap : Heap) : List (String × Tree) → List (String × Item) × Heap
  | [] => ([], heap)
  | (key, tree) :: rest =>
    let (item, heap) := ofTree heap tree
    let (entries, heap) := ofEntries heap rest
    ((key, item) :: entries, heap)

end

end Heap

end SnippetBridge.Host
