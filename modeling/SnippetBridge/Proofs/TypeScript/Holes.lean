import SnippetBridge.Proofs.TypeScript.Comments

/-!
Lists in brackets, of which items may be left out. The grammar has no node for a hole: it shows only
by its comma. What is read from the commas is the list that was written, wherever comments stand.
-/

namespace SnippetBridge.TypeScript.Node

/-! ### Written lists -/

def comma : Node := .leaf .mark ","

/-- The nodes between the brackets of a list. Items are followed by commas, and an item that is left
out is only its comma. The comma behind the last item may be missing if there is an item. -/
inductive ListsItems : List (Option Node) → List Node → Prop where
  | nil : ListsItems [] []
  | last {item : Node} (hitem : item.kind.isPart) : ListsItems [some item] [item]
  | item {item : Node} {items : List (Option Node)} {nodes : List Node}
      (hitem : item.kind.isPart) (h : ListsItems items nodes) :
      ListsItems (some item :: items) (item :: comma :: nodes)
  | hole {items : List (Option Node)} {nodes : List Node} (h : ListsItems items nodes) :
      ListsItems (none :: items) (comma :: nodes)

/-- The children of a list: its brackets and what is between them, with blanks and comments
anywhere. -/
structure WritesItems (items : List (Option Node)) (children : Children) : Prop where
  tidy : ∀ child ∈ children, child.2.kind.isTrivia → child.2.Tidy
  lists : ∃ nodes, ListsItems items nodes ∧
    (children.map Prod.snd).filter (fun node => !node.kind.isTrivia) =
      .leaf .mark "[" :: nodes ++ [.leaf .mark "]"]

/-! ### Reading -/

variable {α : Type} (read : Node → α)

/-- The items among nodes, when the last thing before them is an item or not. Both lists of
expressions and lists of patterns are read like this. -/
def slots (filled : Bool) : List Node → List (Option α)
  | [] => []
  | node :: rest =>
    if node.kind.isPart then some (read node) :: slots true rest
    else if node.text = "," then
      if filled then slots false rest else none :: slots false rest
    else slots filled rest

theorem exprSlots_eq_slots (filled : Bool) (children : Children) :
    exprSlots filled children = slots toExpr filled (children.map Prod.snd) := by
  induction children generalizing filled with
  | nil => rfl
  | cons child rest ih =>
      obtain ⟨role, node⟩ := child
      simp only [exprSlots, List.map_cons, slots, ih]

theorem patternSlots_eq_slots (filled : Bool) (children : Children) :
    patternSlots filled children = slots toPattern filled (children.map Prod.snd) := by
  induction children generalizing filled with
  | nil => rfl
  | cons child rest ih =>
      obtain ⟨role, node⟩ := child
      simp only [patternSlots, List.map_cons, slots, ih]

variable {items : List (Option Node)} {node : Node} {nodes : List Node} {filled : Bool}

theorem slots_part (h : node.kind.isPart) :
    slots read filled (node :: nodes) = some (read node) :: slots read true nodes := by
  rw [slots, if_pos h]

theorem slots_comma (filled : Bool) :
    slots read filled (comma :: nodes) =
      if filled then slots read false nodes else none :: slots read false nodes :=
  rfl

/-- What is neither a part nor a comma does not count. -/
theorem slots_skip (hpart : node.kind.isPart = false) (hcomma : node.text ≠ ",") :
    slots read filled (node :: nodes) = slots read filled nodes := by
  rw [slots, if_neg (by simp [hpart]), if_neg hcomma]

theorem slots_filter (h : ∀ node ∈ nodes, node.kind.isTrivia → node.text ≠ ",") :
    slots read filled (nodes.filter fun node => !node.kind.isTrivia) =
      slots read filled nodes := by
  induction nodes generalizing filled with
  | nil => rfl
  | cons node nodes ih =>
      obtain ⟨hnode, hnodes⟩ := List.forall_mem_cons.mp h
      by_cases htrivia : node.kind.isTrivia
      · have hpart : node.kind.isPart = false := by simp [Kind.isPart, htrivia]
        rw [List.filter_cons_of_neg (by simp [htrivia]), ih hnodes,
          slots_skip read hpart (hnode htrivia)]
      · rw [List.filter_cons_of_pos (by simp [htrivia])]
        simp only [slots, ih hnodes]

theorem slots_concat (hpart : node.kind.isPart = false) (hcomma : node.text ≠ ",") :
    slots read filled (nodes ++ [node]) = slots read filled nodes := by
  induction nodes generalizing filled with
  | nil => exact slots_skip read hpart hcomma
  | cons first nodes ih => simp only [List.cons_append, slots, ih]

theorem slots_of_listsItems (h : ListsItems items nodes) :
    slots read false nodes = items.map (Option.map read) := by
  induction h with
  | nil => rfl
  | last hitem => rw [slots_part read hitem]; rfl
  | item hitem _ ih =>
      rw [slots_part read hitem, slots_comma, if_pos rfl, ih]
      rfl
  | hole _ ih =>
      rw [slots_comma, if_neg (by simp), ih]
      rfl

theorem slots_of_writesItems {children : Children} (h : WritesItems items children) :
    slots read false (children.map Prod.snd) = items.map (Option.map read) := by
  obtain ⟨nodes, hlists, hnodes⟩ := h.lists
  have htrivia : ∀ node ∈ children.map Prod.snd, node.kind.isTrivia → node.text ≠ "," := by
    intro node hnode hkind
    obtain ⟨child, hchild, rfl⟩ := List.mem_map.mp hnode
    exact (h.tidy child hchild hkind).text_ne_comma hkind
  rw [← slots_filter read htrivia, hnodes, List.cons_append, slots_skip read rfl (by decide),
    slots_concat read rfl (by decide), slots_of_listsItems read hlists]

/-- Arrays and array patterns hold the items that were written, and `none` for each that was left
out. -/
theorem elements_of_writesItems {children : Children} (h : WritesItems items children) :
    (Node.branch .array children).toExpr = .array (items.map (Option.map toExpr)) ∧
      (Node.branch .arrayPattern children).toPattern =
        .array (items.map (Option.map toPattern)) := by
  constructor
  · rw [toExpr, exprSlots_eq_slots, slots_of_writesItems toExpr h]
  · rw [toPattern, patternSlots_eq_slots, slots_of_writesItems toPattern h]

/-- A hole, an item with a comma behind it, and a hole, with commas in the comments. -/
theorem elements_of_writesItems_commented :
    ∃ children, WritesItems [none, some (.leaf .identifier "a"), none] children ∧
      children.map (fun child => child.2.text) =
        ["[", "/*,*/", ",", " ", "a", "/* , */", ",", ",", "]"] ∧
      (Node.branch .array children).toExpr = .array [none, some (.identifier "a"), none] ∧
      (Node.branch .arrayPattern children).toPattern =
        .array [none, some (.identifier "a"), none] := by
  have hlists : ListsItems [none, some (.leaf .identifier "a"), none]
      [comma, .leaf .identifier "a", comma, comma] :=
    .hole (.item rfl (.hole .nil))
  have hwrites : WritesItems [none, some (.leaf .identifier "a"), none]
      [(.plain, .leaf .mark "["), (.plain, .leaf .comment "/*,*/"), (.plain, comma),
        (.plain, .leaf .blank " "), (.plain, .leaf .identifier "a"),
        (.plain, .leaf .comment "/* , */"), (.plain, comma), (.plain, comma),
        (.plain, .leaf .mark "]")] := by
    refine ⟨?_, _, hlists, rfl⟩
    simp [Tidy, Kind.isTrivia, Kind.isToken, comma]
  obtain ⟨hexpr, hpattern⟩ := elements_of_writesItems hwrites
  exact ⟨_, hwrites, rfl, hexpr, hpattern⟩

end SnippetBridge.TypeScript.Node
