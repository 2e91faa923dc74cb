import SnippetBridge.Proofs.Rhai.Layout
import SnippetBridge.Proofs.Text.ByteOrder

/-!
In which order the entries of an object are written. There is one way only to put entries with
distinct keys in ascending order, and it is found before any key is quoted and any value is
written; so it is the same for all options, and the order in which the entries came does not show.
A walk hands the level of an object down to it, so the object is written in the literal of the whole
just as it is written from that level on.
-/

namespace SnippetBridge

namespace Entries

variable {α : Type} {entries other : List (String × α)}

/-- Each key comes once, and the keys ascend in the order of their UTF-8 bytes. -/
def Ascending (entries : List (String × α)) : Prop :=
  (keys entries).Pairwise fun a b => Text.bytes a < Text.bytes b

theorem ascending_iff : Ascending entries ↔ entries.Pairwise fun a b => a.1 < b.1 := by
  simp only [Ascending, Text.bytes_lt_iff, keys, List.pairwise_map]

theorem ascending_sorted (hkeys : (keys entries).Nodup) : Ascending (sorted entries) := by
  have hdistinct : (sorted entries).Pairwise fun a b => a.1 ≠ b.1 := by
    have hsorted : (keys (sorted entries)).Nodup :=
      ((List.mergeSort_perm entries _).map Prod.fst).nodup_iff.mpr hkeys
    exact List.pairwise_map.mp hsorted
  rw [ascending_iff]
  refine (pairwise_sorted entries).imp₂ (fun a b hle hne => ?_) hdistinct
  by_contra hnot
  exact hne (String.le_antisymm hle (String.not_lt.mp hnot))

/-- Entries with distinct keys can be put in ascending order in one way. -/
theorem perm_ascending_iff (hkeys : (keys entries).Nodup) :
    other.Perm entries ∧ Ascending other ↔ other = sorted entries := by
  constructor
  · rintro ⟨hperm, hascending⟩
    have hle : other.Pairwise fun a b => a.1 ≤ b.1 :=
      (ascending_iff.mp hascending).imp fun hlt => String.not_lt.mp (String.lt_asymm hlt)
    exact (sorted_eq_of_perm hkeys hperm.symm hle).symm
  · rintro rfl
    exact ⟨List.mergeSort_perm entries _, ascending_sorted hkeys⟩

end Entries

namespace Rhai

open Host Text

/-- What is written for an item at a level: the walk that starts there writes this, and so does
every other walk that comes to the item and is not stopped. -/
def Writes (options : Options) (heap : Heap) (depth : Nat) (item : Item) (literal : List Char) :
    Prop :=
  Walk.text options heap heap.size depth item [] = .ok (literal, []) ∧
    ∀ budget before other after,
      Walk.text options heap budget depth item before = .ok (other, after) → other = literal

variable {heap : Heap} {item : Item} {tree : Tree}

theorem writes_of_unfolds (options : Options) (depth : Nat) (h : heap.Unfolds item tree) :
    Writes options heap depth item (treeText options depth tree) := by
  have hsucceeds : Walk.Succeeds (Walk.text options heap heap.size depth item) [] :=
    (Walk.succeeds_text_iff (by simp) depth).mpr (Walk.clear_of_acyclic h.acyclic)
  obtain ⟨literal, hrun⟩ := hsucceeds
  refine ⟨?_, fun budget before other after hother => Walk.eq_treeText_of_text h hother⟩
  rw [hrun, Walk.eq_treeText_of_text h hrun]

/-- Wherever an object is nested in an item without cycles, its entries are written in the one order
in which their keys ascend by their UTF-8 bytes, whatever the options are and whatever order they
came in: one line for each entry, with the key of the entry and what is written for its value. These
lines are what every walk writes for the object at this place, and they stand in the literal of the
whole. To ascend by the bytes is to ascend by the code points. -/
theorem object_lines_ascending {heap : Heap} {root : Item} (hheap : heap.WellFormed)
    (hroot : heap.Acyclic root) {levels : Nat} {id : NodeId} {entries : List (String × Item)}
    (hnested : heap.Nests root levels (.node id)) (hnode : heap.node? id = some (.object entries)) :
    ∃ ordered : List (String × Item),
      (∀ other, other.Perm entries ∧ Entries.Ascending other ↔ other = ordered) ∧
      (∀ options, ∃ lines literal whole,
        List.Forall₂
            (fun entry line => entry.1 = line.1 ∧ Writes options heap (levels + 1) entry.2 line.2)
            ordered lines ∧
          literal = block ['#', '\x7b'] ['\x7d'] (lines.map (lineText options)) levels ∧
          Writes options heap levels (.node id) literal ∧
          renderGraph options heap root = .ok whole ∧ literal <:+: whole.toList) ∧
      ∀ a b, bytes a < bytes b ↔ codePoints a < codePoints b := by
  obtain ⟨tree, htree, -⟩ := exists_unfolds_of_acyclic .standard hroot
  obtain ⟨part, hpart, hin⟩ := exists_nested htree hnested
  refine ⟨Entries.sorted entries, fun other => Entries.perm_ascending_iff (hheap id _ hnode),
    fun options => ?_, fun a b => bytes_lt_iff.trans codePoints_lt_iff.symm⟩
  cases hpart with
  | missing hother => simp [hnode] at hother
  | array hother _ => simp [hnode] at hother
  | @object _ _ trees hother hentries =>
      rw [hnode] at hother
      cases hother
      have hobject := writes_of_unfolds options levels (.object hnode hentries)
      have hpart := hin options 0
      rw [Nat.zero_add] at hpart
      refine ⟨_, treeText options levels (.object trees), _,
        Entries.forall₂_sorted (fun _ _ h => h.1)
          (forall₂_entryTexts (fun h => writes_of_unfolds options (levels + 1) h) hentries),
        ?_, hobject, renderGraph_of_unfolds options htree, ?_⟩
      · rw [treeText, objectText_eq]
      · rw [renderTree, String.toList_append, String.toList_ofList]
        exact hpart.trans (List.prefix_append _ _).isInfix

/-- Keys with a quote to be escaped, with the last code point that two bytes of UTF-16 can hold, and
with one that takes four. -/
def mixedEntries : List (String × Item) :=
  [("😀", .node 0), ("a\"b", .leaf (.reference "x.y")), ("\uffff", .leaf .null), ("Z", .node 0)]

def mixedHeap : Heap := ⟨#[.array [], .object mixedEntries, .array [.node 1]]⟩

/-- Neither the quotes nor the UTF-16 form of the keys decide where the entries come. -/
theorem object_lines_ascending_mixed :
    mixedHeap.WellFormed ∧ mixedHeap.Acyclic (.node 2) ∧ mixedHeap.Nests (.node 2) 1 (.node 1) ∧
      mixedHeap.node? 1 = some (.object mixedEntries) ∧
      ∀ options, ∃ lines literal whole,
        List.Forall₂
            (fun entry line => entry.1 = line.1 ∧ Writes options mixedHeap 2 entry.2 line.2)
            [("Z", .node 0), ("a\"b", .leaf (.reference "x.y")), ("\uffff", .leaf .null),
              ("😀", .node 0)]
            lines ∧
          literal = block ['#', '\x7b'] ['\x7d'] (lines.map (lineText options)) 1 ∧
          Writes options mixedHeap 1 (.node 1) literal ∧
          renderGraph options mixedHeap (.node 2) = .ok whole ∧ literal <:+: whole.toList := by
  have hheap : mixedHeap.WellFormed :=
    ((Heap.wellFormed_empty.allocate (by decide : (Node.array []).WellFormed)).allocate
      (by decide : (Node.object mixedEntries).WellFormed)).allocate
      (by decide : (Node.array [.node 1]).WellFormed)
  have htree : mixedHeap.Unfolds (.node 2)
      (.array [.object [("😀", .array []), ("a\"b", .leaf (.reference "x.y")),
        ("\uffff", .leaf .null), ("Z", .array [])]]) :=
    .array rfl (.cons (.object rfl (.cons (.array rfl .nil) (.cons (.leaf _) (.cons (.leaf _)
      (.cons (.array rfl .nil) .nil))))) .nil)
  have hnested : mixedHeap.Nests (.node 2) 1 (.node 1) := .step rfl List.mem_cons_self (.self _)
  have hnode : mixedHeap.node? 1 = some (.object mixedEntries) := rfl
  obtain ⟨ordered, hordered, hlines, -⟩ :=
    object_lines_ascending hheap htree.acyclic hnested hnode
  obtain rfl := (hordered [("Z", .node 0), ("a\"b", .leaf (.reference "x.y")),
    ("\uffff", .leaf .null), ("😀", .node 0)]).mp ⟨by decide, by
      rw [Entries.ascending_iff]
      decide⟩
  exact ⟨hheap, htree.acyclic, hnested, hnode, hlines⟩

end Rhai

end SnippetBridge
