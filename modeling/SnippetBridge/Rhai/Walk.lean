import SnippetBridge.Host.Heap
import SnippetBridge.Rhai.Literal

/-!
Rendering a graph. The walk keeps the nodes it is inside of; coming to one of them again is a
circular reference, while a node that several parents share is written once for each of them. A
declared value is rendered as a graph, too.
-/

namespace SnippetBridge.Rhai

inductive RenderError where
  | circularReference
  /-- The walk has used up its budget, which says nothing about the graph. The budget for rendering a
  graph is large enough for this never to happen. -/
  | exhausted
  deriving DecidableEq

def RenderError.message : RenderError → String
  | .circularReference => "circular reference detected"
  | .exhausted => "walk not finished"

/-- A computation that keeps the nodes on the way from the root. -/
abbrev Walk := StateT (List Host.NodeId) (Except RenderError)

namespace Walk

/-- Steps into a node. -/
def enter (id : Host.NodeId) : Walk Unit := fun ancestors =>
  if id ∈ ancestors then .error .circularReference else .ok ((), id :: ancestors)

/-- Steps out of a node. -/
def leave (id : Host.NodeId) : Walk Unit := fun ancestors => .ok ((), ancestors.erase id)

/-- Walks inside of a node. -/
def within {α : Type} (id : Host.NodeId) (walk : Walk α) : Walk α := do
  enter id
  let result ← walk
  leave id
  return result

/-- The literal of an item whose brackets stand at level `depth`. The items of at most `budget` nodes
are gone into, one inside of the other; a node that the walk is inside of already is a circular
reference even when nothing of the budget is left. -/
def text (options : Options) (heap : Host.Heap) : Nat → Nat → Host.Item → Walk (List Char)
  | _, _, .leaf leaf => return leafText options leaf
  | budget, depth, .node id =>
    match heap.node? id with
    | none => return leafText options .undefined
    | some node =>
      within id <|
        match budget, node with
        | 0, _ => throw .exhausted
        | budget + 1, .array items => do
          let texts ← items.mapM (text options heap budget (depth + 1))
          return arrayText depth texts
        | budget + 1, .object entries => do
          let texts ← entries.mapM fun (key, item) => do
            let literal ← text options heap budget (depth + 1) item
            return (key, literal)
          return objectText options depth texts

end Walk

/-- The literal of the graph that is seen from an item, and the suffix. The budget of the walk is one
for each node of the heap. -/
def renderGraph (options : Options) (heap : Host.Heap) (root : Host.Item) :
    Except RenderError String := do
  let (literal, _) ← (Walk.text options heap heap.size 0 root).run []
  return String.ofList literal ++ options.suffix

/-- The literal of a declared value, as the graph in which each array and object of it is a node of
its own. -/
def renderValue (options : Options) (value : Value) : Except RenderError String :=
  let (root, heap) := Host.Heap.empty.ofTree (.ofValue value)
  renderGraph options heap root

end SnippetBridge.Rhai
