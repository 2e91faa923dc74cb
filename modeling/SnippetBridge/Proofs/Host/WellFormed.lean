import Mathlib.Data.Option.Basic
import SnippetBridge.Host.Heap
import SnippetBridge.Proofs.Entries

/-!
Heaps whose objects are maps. A heap starts out without nodes, and nothing that is done to it makes
an object repeat a key.
-/

namespace SnippetBridge.Host

/-- A node that repeats no key. -/
def Node.WellFormed : Node → Prop
  | .array _ => True
  | .object entries => (Entries.keys entries).Nodup

instance : DecidablePred Node.WellFormed
  | .array _ => .isTrue trivial
  | .object entries => inferInstanceAs (Decidable (Entries.keys entries).Nodup)

namespace Heap

/-- No object of the heap repeats a key. -/
def WellFormed (heap : Heap) : Prop := ∀ id node, heap.node? id = some node → node.WellFormed

variable {heap next : Heap} {node : Node} {target item : Item}

theorem wellFormed_empty : empty.WellFormed := by
  intro id node hnode
  simp [empty, node?] at hnode

theorem WellFormed.set (hheap : heap.WellFormed) (id : NodeId) (hnode : node.WellFormed) :
    (heap.set id node).WellFormed := by
  intro other found hfound
  simp only [Heap.set, node?, Array.getElem?_setIfInBounds] at hfound
  split at hfound
  · split at hfound
    · cases hfound
      exact hnode
    · cases hfound
  · exact hheap other found hfound

theorem WellFormed.allocate (hheap : heap.WellFormed) (hnode : node.WellFormed) :
    (heap.allocate node).2.WellFormed := by
  intro id found hfound
  simp only [Heap.allocate, node?, Array.getElem?_push] at hfound
  split at hfound
  · cases hfound
    exact hnode
  · exact hheap id found hfound

theorem WellFormed.modifyItems (hheap : heap.WellFormed) {change : List Item → List Item}
    (h : heap.modifyItems? target change = some next) : next.WellFormed := by
  simp only [modifyItems?] at h
  split at h
  · cases h
    exact hheap.set _ trivial
  · cases h

/-- Entries may be changed in any way that repeats no key. -/
theorem WellFormed.modifyEntries (hheap : heap.WellFormed)
    {change : List (String × Item) → List (String × Item)}
    (hchange : ∀ entries, (Entries.keys entries).Nodup → (Entries.keys (change entries)).Nodup)
    (h : heap.modifyEntries? target change = some next) : next.WellFormed := by
  simp only [modifyEntries?] at h
  split at h
  next id entries hnode =>
    cases h
    have hentries : (Entries.keys entries).Nodup := by
      cases target with
      | leaf leaf => cases hnode
      | node place =>
          obtain ⟨_, hfound, heq⟩ := Option.map_eq_some_iff.mp hnode
          cases heq
          exact hheap _ _ hfound
    exact hheap.set _ (hchange entries hentries)
  next => cases h

theorem WellFormed.push (hheap : heap.WellFormed) (h : heap.push? target item = some next) :
    next.WellFormed :=
  hheap.modifyItems h

theorem WellFormed.pop (hheap : heap.WellFormed) (h : heap.pop? target = some next) :
    next.WellFormed :=
  hheap.modifyItems h

theorem WellFormed.insert (hheap : heap.WellFormed) {key : String}
    (h : heap.insert? target key item = some next) : next.WellFormed :=
  hheap.modifyEntries (fun _ => Entries.nodup_keys_insert) h

theorem WellFormed.remove (hheap : heap.WellFormed) {key : String}
    (h : heap.remove? target key = some next) : next.WellFormed :=
  hheap.modifyEntries (fun _ => Entries.nodup_keys_erase) h

theorem WellFormed.clear (hheap : heap.WellFormed) (h : heap.clear? target = some next) :
    next.WellFormed := by
  rcases (Option.orElse_eq_some _ _ _).mp h with hitems | ⟨-, hentries⟩
  · exact hheap.modifyItems hitems
  · refine hheap.modifyEntries ?_ hentries
    exact fun _ _ => List.nodup_nil

end Heap

end SnippetBridge.Host
