import SnippetBridge.TypeScript.Node

/-!
Deciding whether two syntax trees are the same, blanks and comments included. Trees of given sources
can then be computed and compared.
-/

namespace SnippetBridge.TypeScript.Node

mutual

def identical : Node → Node → Bool
  | .leaf kind text, .leaf kind' text' => decide (kind = kind') && text == text'
  | .branch kind children, .branch kind' children' =>
    decide (kind = kind') && identicalChildren children children'
  | _, _ => false

def identicalChildren : List (Role × Node) → List (Role × Node) → Bool
  | [], [] => true
  | (role, node) :: rest, (role', node') :: rest' =>
    decide (role = role') && identical node node' && identicalChildren rest rest'
  | _, _ => false

end

mutual

theorem identical_iff (a b : Node) : a.identical b = true ↔ a = b := by
  cases a with
  | leaf kind text => cases b <;> simp [identical]
  | branch kind children =>
      cases b with
      | leaf kind' text' => simp [identical]
      | branch kind' children' =>
          rw [identical, Bool.and_eq_true, decide_eq_true_iff, identicalChildren_iff children,
            Node.branch.injEq]

theorem identicalChildren_iff (children others : List (Role × Node)) :
    identicalChildren children others = true ↔ children = others := by
  cases children with
  | nil => cases others <;> simp [identicalChildren]
  | cons child rest =>
      obtain ⟨role, node⟩ := child
      cases others with
      | nil => simp [identicalChildren]
      | cons other rest' =>
          obtain ⟨role', node'⟩ := other
          rw [identicalChildren, Bool.and_eq_true, Bool.and_eq_true, decide_eq_true_iff,
            identical_iff node, identicalChildren_iff rest, List.cons.injEq, Prod.mk.injEq]

end

instance : DecidableEq Node := fun a b => decidable_of_iff _ (identical_iff a b)

end SnippetBridge.TypeScript.Node
