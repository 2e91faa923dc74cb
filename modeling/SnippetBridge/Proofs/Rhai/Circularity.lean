import SnippetBridge.Proofs.Host.Reachability
import SnippetBridge.Rhai.Walk

/-!
When a graph can be rendered. The walk keeps the nodes that it is inside of, and leaves them as it
found them; so it stops exactly at a node that leads back to itself. Each node that it goes into is
one that it has not been inside of, so a budget of as many nodes as the heap has is never used up,
and more of it changes nothing.
-/

namespace SnippetBridge.Rhai

open Host

namespace Walk

variable {α β : Type} {options : Options} {heap : Heap} {budget depth : Nat} {id : NodeId}
  {node : Node} {item : Item} {before after : List NodeId}

/-! ### Walks that step out of what they step into -/

/-- When the walk succeeds it is inside of the same nodes as before. -/
def Restores (walk : Walk α) : Prop :=
  ∀ before result after, walk before = .ok (result, after) → after = before

def Succeeds (walk : Walk α) (before : List NodeId) : Prop :=
  ∃ result, walk before = .ok (result, before)

theorem bind_apply (walk : Walk α) (next : α → Walk β) (before : List NodeId) :
    (walk >>= next) before =
      (match walk before with
        | .ok (result, after) => next result after
        | .error e => .error e) := by
  show (walk before >>= fun (result, after) => next result after) = _
  cases walk before <;> rfl

theorem map_apply (f : α → β) (walk : Walk α) (before : List NodeId) :
    (f <$> walk) before =
      (match walk before with
        | .ok (result, after) => .ok (f result, after)
        | .error e => .error e) := by
  rw [map_eq_pure_bind, bind_apply]
  cases walk before <;> rfl

theorem map_eq_ok_iff {walk : Walk α} {f : α → β} {result : β} :
    (f <$> walk) before = .ok (result, after) ↔
      ∃ a, walk before = .ok (a, after) ∧ f a = result := by
  rw [map_apply]
  cases walk before <;> simp [Prod.ext_iff, and_comm]

theorem Restores.map {walk : Walk α} (hwalk : Restores walk) (f : α → β) :
    Restores (f <$> walk) := by
  intro before result after hrun
  obtain ⟨a, hfirst, -⟩ := map_eq_ok_iff.mp hrun
  exact hwalk before a after hfirst

theorem succeeds_map_iff {walk : Walk α} {f : α → β} :
    Succeeds (f <$> walk) before ↔ Succeeds walk before := by
  simp only [Succeeds, map_eq_ok_iff]
  constructor
  · rintro ⟨_, a, hrun, -⟩
    exact ⟨a, hrun⟩
  · rintro ⟨a, hrun⟩
    exact ⟨f a, a, hrun, rfl⟩

theorem map_eq_error_iff {walk : Walk α} {f : α → β} {e : RenderError} :
    (f <$> walk) before = .error e ↔ walk before = .error e := by
  rw [map_apply]
  cases walk before <;> simp

/-- A walk that does not use up its budget either succeeds or has come to a circular reference. -/
theorem Restores.fails_iff {walk : Walk α} (hwalk : Restores walk)
    (hroom : walk before ≠ .error .exhausted) {e : RenderError} :
    walk before = .error e ↔ e = .circularReference ∧ ¬Succeeds walk before := by
  cases hrun : walk before with
  | error stop =>
      cases stop with
      | circularReference => simp [Succeeds, hrun, eq_comm]
      | exhausted => exact absurd hrun hroom
  | ok r => simp [Succeeds, hrun, Prod.ext_iff, hwalk before r.1 r.2 hrun]

theorem mapM_cons_apply {f : α → Walk β} (hf : ∀ a, Restores (f a)) (a : α) (rest : List α) :
    (a :: rest).mapM f before =
      (match f a before with
        | .ok (b, _) => ((b :: ·) <$> rest.mapM f) before
        | .error e => .error e) := by
  rw [List.mapM_cons, bind_apply]
  cases hfirst : f a before with
  | error e => rfl
  | ok r =>
      obtain ⟨b, after⟩ := r
      have hafter : after = before := hf a before b after hfirst
      simp only [hafter, map_eq_pure_bind]

theorem Restores.mapM {f : α → Walk β} (hf : ∀ a, Restores (f a)) (items : List α) :
    Restores (items.mapM f) := by
  induction items with
  | nil =>
      intro before result after hrun
      simp only [List.mapM_nil] at hrun
      cases hrun
      rfl
  | cons a rest ih =>
      intro before result after hrun
      rw [mapM_cons_apply hf] at hrun
      cases hfirst : f a before with
      | error e => simp [hfirst] at hrun
      | ok r =>
          rw [hfirst] at hrun
          exact ih.map _ before result after hrun

/-- Walking over a list succeeds exactly when walking over each of its items does. -/
theorem succeeds_mapM_iff {f : α → Walk β} (hf : ∀ a, Restores (f a)) (items : List α) :
    Succeeds (items.mapM f) before ↔ ∀ a ∈ items, Succeeds (f a) before := by
  induction items with
  | nil => simpa using ⟨[], rfl⟩
  | cons a rest ih =>
      rw [List.forall_mem_cons, ← ih, Succeeds, mapM_cons_apply hf]
      cases hfirst : f a before with
      | error e => simp [Succeeds, hfirst]
      | ok r =>
          have hhead : Succeeds (f a) before :=
            ⟨r.1, by rw [hfirst, ← hf a before r.1 r.2 hfirst]⟩
          simp only [hhead, true_and]
          exact succeeds_map_iff

/-- A walk over a list fails as the walk over one of its items does. -/
theorem exists_error_of_mapM {f : α → Walk β} (hf : ∀ a, Restores (f a)) {items : List α}
    {e : RenderError} (hrun : items.mapM f before = .error e) :
    ∃ a ∈ items, f a before = .error e := by
  induction items with
  | nil => cases hrun
  | cons a rest ih =>
      rw [mapM_cons_apply hf] at hrun
      cases hfirst : f a before with
      | error stop =>
          rw [hfirst] at hrun
          cases hrun
          exact ⟨a, List.mem_cons_self, hfirst⟩
      | ok r =>
          rw [hfirst] at hrun
          obtain ⟨b, hb, hfails⟩ := ih (map_eq_error_iff.mp hrun)
          exact ⟨b, List.mem_cons_of_mem a hb, hfails⟩

theorem mapM_congr {f g : α → Walk β} (hf : ∀ a, Restores (f a)) (hg : ∀ a, Restores (g a))
    (items : List α) (hsame : ∀ a ∈ items, f a before = g a before) :
    items.mapM f before = items.mapM g before := by
  induction items with
  | nil => rfl
  | cons a rest ih =>
      have hrest := ih fun b hb => hsame b (List.mem_cons_of_mem a hb)
      rw [mapM_cons_apply hf, mapM_cons_apply hg, hsame a List.mem_cons_self]
      simp only [map_apply, hrest]

/-! ### Walking inside of a node -/

theorem within_apply {walk : Walk α} (hwalk : Restores walk) :
    within id walk before =
      if id ∈ before then .error .circularReference
      else match walk (id :: before) with
        | .ok (result, _) => .ok (result, before)
        | .error e => .error e := by
  by_cases hid : id ∈ before
  · simp [within, bind_apply, enter, hid]
  · cases hrun : walk (id :: before) with
    | error e => simp [within, bind_apply, enter, hid, hrun]
    | ok r =>
        obtain ⟨result, after⟩ := r
        have hafter : after = id :: before := hwalk (id :: before) result after hrun
        simp [within, bind_apply, map_apply, enter, leave, hid, hrun, hafter]

/-- Walking inside of a node succeeds outside of it only, and steps out of it again. -/
theorem within_eq_ok_iff {walk : Walk α} (hwalk : Restores walk) {result : α} :
    within id walk before = .ok (result, after) ↔
      id ∉ before ∧ walk (id :: before) = .ok (result, id :: before) ∧ after = before := by
  rw [within_apply hwalk]
  by_cases hid : id ∈ before
  · simp [hid]
  · cases hinner : walk (id :: before) with
    | error e => simp [hid]
    | ok r =>
        obtain ⟨inner, inside⟩ := r
        obtain rfl : inside = id :: before := hwalk (id :: before) inner inside hinner
        simp [hid, eq_comm]

/-- Stepping into a node uses up nothing, so it is the walk inside of the node that does. -/
theorem within_eq_exhausted_iff {walk : Walk α} (hwalk : Restores walk) :
    within id walk before = .error .exhausted ↔
      id ∉ before ∧ walk (id :: before) = .error .exhausted := by
  rw [within_apply hwalk]
  by_cases hid : id ∈ before
  · simp [hid]
  · cases hinner : walk (id :: before) <;> simp [hid]

theorem Restores.within {walk : Walk α} (hwalk : Restores walk) : Restores (within id walk) :=
  fun _ _ _ hrun => ((within_eq_ok_iff hwalk).mp hrun).2.2

theorem succeeds_within_iff {walk : Walk α} (hwalk : Restores walk) :
    Succeeds (within id walk) before ↔ id ∉ before ∧ Succeeds walk (id :: before) := by
  simp only [Succeeds, within_eq_ok_iff hwalk, and_true, exists_and_left]

/-! ### The walk over a graph -/

/-- The literal of an entry's value, under its key. -/
def entryText (options : Options) (heap : Heap) (budget depth : Nat) (entry : String × Item) :
    Walk (String × List Char) :=
  (fun literal => (entry.1, literal)) <$> text options heap budget depth entry.2

/-- The literal of what a node holds; the walk is inside of the node already. -/
def contentText (options : Options) (heap : Heap) : Nat → Nat → Node → Walk (List Char)
  | 0, _, _ => throw .exhausted
  | budget + 1, depth, .array items =>
    arrayText depth <$> items.mapM (text options heap budget (depth + 1))
  | budget + 1, depth, .object entries =>
    objectText options depth <$> entries.mapM (entryText options heap budget (depth + 1))

/-- An item that is no node of the heap is a literal by itself. -/
theorem text_of_at?_eq_none (options : Options) (hitem : heap.at? item = none) :
    ∃ literal, ∀ budget depth, text options heap budget depth item = return literal := by
  cases item with
  | leaf leaf => exact ⟨leafText options leaf, fun _ _ => by unfold text; rfl⟩
  | node id =>
      have hnode : heap.node? id = none := by simpa [Heap.at?] using hitem
      refine ⟨leafText options .undefined, fun _ _ => ?_⟩
      unfold text
      simp [hnode]

theorem text_node (hnode : heap.node? id = some node) :
    text options heap budget depth (.node id) =
      within id (contentText options heap budget depth node) := by
  unfold text
  cases budget with
  | zero => simp [hnode, contentText]
  | succ budget =>
      cases node with
      | array items => simp [hnode, contentText]
      | object entries =>
          simp only [hnode, contentText, bind_pure_comp]
          rfl

theorem Restores.pure (a : α) : Restores (Pure.pure a) := by
  intro before result after hrun
  cases hrun
  rfl

theorem Restores.throw (e : RenderError) : Restores (throw e : Walk α) := by
  intro before result after hrun
  cases hrun

theorem contentText_succ_restores
    (htext : ∀ item, Restores (text options heap budget (depth + 1) item)) (node : Node) :
    Restores (contentText options heap (budget + 1) depth node) := by
  cases node with
  | array items => exact (Restores.mapM htext items).map _
  | object entries => exact (Restores.mapM (fun entry => (htext entry.2).map _) entries).map _

theorem text_restores_of_content
    (hcontent : ∀ node, Restores (contentText options heap budget depth node)) (item : Item) :
    Restores (text options heap budget depth item) := by
  rcases hitem : heap.at? item with _ | ⟨id, node⟩
  · obtain ⟨literal, htext⟩ := text_of_at?_eq_none options hitem
    exact htext .. ▸ .pure literal
  · obtain ⟨rfl, hnode⟩ := Heap.at?_eq_some_iff.mp hitem
    rw [text_node hnode]
    exact (hcontent node).within

theorem text_restores (options : Options) (heap : Heap) (budget depth : Nat) (item : Item) :
    Restores (text options heap budget depth item) := by
  induction budget generalizing depth item with
  | zero =>
      have hcontent (node : Node) : Restores (contentText options heap 0 depth node) :=
        .throw .exhausted
      exact text_restores_of_content hcontent item
  | succ budget ih =>
      exact text_restores_of_content (contentText_succ_restores (ih (depth + 1))) item

theorem entryText_restores (options : Options) (heap : Heap) (budget depth : Nat)
    (entry : String × Item) : Restores (entryText options heap budget depth entry) :=
  (text_restores options heap budget depth entry.2).map _

theorem contentText_restores (options : Options) (heap : Heap) (budget depth : Nat) (node : Node) :
    Restores (contentText options heap budget depth node) := by
  cases budget with
  | zero => exact .throw .exhausted
  | succ budget =>
      exact contentText_succ_restores (text_restores options heap budget (depth + 1)) node

/-- Coming to a node that the walk is inside of is a circular reference, whatever the budget. -/
theorem text_of_mem (hnode : heap.node? id = some node) (hinside : id ∈ before) :
    text options heap budget depth (.node id) before = .error .circularReference := by
  rw [text_node hnode, within_apply (contentText_restores _ _ _ _ node), if_pos hinside]

/-- Rendering what a node holds succeeds exactly when rendering each of its items does. -/
theorem succeeds_contentText_iff :
    Succeeds (contentText options heap (budget + 1) depth node) before ↔
      ∀ child ∈ node.items, Succeeds (text options heap budget (depth + 1) child) before := by
  cases node with
  | array items =>
      rw [contentText, succeeds_map_iff,
        succeeds_mapM_iff (text_restores options heap budget (depth + 1)), Node.items]
  | object entries =>
      rw [contentText, succeeds_map_iff,
        succeeds_mapM_iff (entryText_restores options heap budget (depth + 1))]
      simp only [entryText, succeeds_map_iff, Node.items, List.forall_mem_map]

/-- Rendering what a node holds fails as rendering one of its items does. -/
theorem exists_error_of_contentText {e : RenderError}
    (hrun : contentText options heap (budget + 1) depth node before = .error e) :
    ∃ child ∈ node.items, text options heap budget (depth + 1) child before = .error e := by
  cases node with
  | array items =>
      have hrestores := text_restores options heap budget (depth + 1)
      exact exists_error_of_mapM hrestores (map_eq_error_iff.mp hrun)
  | object entries =>
      have hrestores := entryText_restores options heap budget (depth + 1)
      obtain ⟨entry, hmem, hfails⟩ := exists_error_of_mapM hrestores (map_eq_error_iff.mp hrun)
      exact ⟨entry.2, List.mem_map_of_mem hmem, map_eq_error_iff.mp hfails⟩

/-- One step of the walk: a node is rendered if the walk is not inside of it already and renders
all its items from inside of it. -/
theorem succeeds_text_node_iff (hnode : heap.node? id = some node) :
    Succeeds (text options heap (budget + 1) depth (.node id)) before ↔
      id ∉ before ∧
        ∀ child ∈ node.items,
          Succeeds (text options heap budget (depth + 1) child) (id :: before) := by
  rw [text_node hnode, succeeds_within_iff (contentText_restores _ _ _ _ node),
    succeeds_contentText_iff]

/-- Induction along a walk whose budget covers the nodes that it is not inside of. With each node
that it goes into, the budget and the nodes left shrink together, so there is no case in which the
budget is used up. -/
@[elab_as_elim] theorem covered_induction {motive : Nat → List NodeId → Item → Prop}
    (leaf : ∀ budget before item, heap.at? item = none → motive budget before item)
    (inside : ∀ budget before id node, heap.node? id = some node → id ∈ before →
      motive budget before (.node id))
    (fresh : ∀ budget before id node, heap.node? id = some node → id ∉ before →
      (∀ child ∈ node.items, motive budget (id :: before) child) →
      motive (budget + 1) before (.node id))
    (hbudget : (heap.unvisited before).card ≤ budget) (item : Item) :
    motive budget before item := by
  induction budget generalizing before item with
  | zero =>
      rcases hitem : heap.at? item with _ | ⟨id, node⟩
      · exact leaf 0 before item hitem
      · obtain ⟨rfl, hnode⟩ := Heap.at?_eq_some_iff.mp hitem
        have hinside := Heap.mem_of_card_unvisited_eq_zero hnode (Nat.le_zero.mp hbudget)
        exact inside 0 before id node hnode hinside
  | succ budget ih =>
      rcases hitem : heap.at? item with _ | ⟨id, node⟩
      · exact leaf (budget + 1) before item hitem
      · obtain ⟨rfl, hnode⟩ := Heap.at?_eq_some_iff.mp hitem
        by_cases hinside : id ∈ before
        · exact inside (budget + 1) before id node hnode hinside
        · have hcard := Heap.card_unvisited_cons hnode hinside
          exact fresh budget before id node hnode hinside fun child _ => ih (by omega) child

/-- A walk whose budget covers the nodes it is not inside of does not use it up. -/
theorem text_ne_exhausted (hbudget : (heap.unvisited before).card ≤ budget) :
    ∀ depth, text options heap budget depth item before ≠ .error .exhausted := by
  refine covered_induction ?leaf ?inside ?fresh hbudget item
  case leaf =>
    intro budget before item hitem depth hrun
    obtain ⟨literal, htext⟩ := text_of_at?_eq_none options hitem
    rw [htext] at hrun
    cases hrun
  case inside =>
    intro budget before id node hnode hinside depth hrun
    rw [text_of_mem hnode hinside] at hrun
    cases hrun
  case fresh =>
    intro budget before id node hnode _ ih depth hrun
    rw [text_node hnode, within_eq_exhausted_iff (contentText_restores _ _ _ _ node)] at hrun
    obtain ⟨child, hchild, hfails⟩ := exists_error_of_contentText hrun.2
    exact ih child hchild (depth + 1) hfails

/-- An item on whose account no walk has to stop: what it sees is none of the given nodes and lies
on no cycle. -/
def Clear (heap : Heap) (before : List NodeId) (item : Item) : Prop :=
  ∀ target, heap.Sees item target → target ∉ before ∧ ¬heap.OnCycle target

theorem clear_nil_iff : Clear heap [] item ↔ ¬∃ id, heap.Sees item id ∧ heap.OnCycle id := by
  simp [Clear]

theorem clear_of_at?_eq_none (hitem : heap.at? item = none) : Clear heap before item :=
  fun _ hsees => absurd hsees (Heap.not_sees_of_at?_eq_none hitem)

theorem succeeds_of_at?_eq_none (hitem : heap.at? item = none) :
    Succeeds (text options heap budget depth item) before := by
  obtain ⟨literal, htext⟩ := text_of_at?_eq_none options hitem
  exact ⟨literal, by rw [htext]; rfl⟩

/-- Inside of a node, an item is clear when on top of everything else it does not lead back. -/
theorem clear_node_iff (hnode : heap.node? id = some node) :
    Clear heap before (.node id) ↔
      id ∉ before ∧ ∀ child ∈ node.items, Clear heap (id :: before) child := by
  simp only [Clear, Heap.sees_node_iff hnode, List.mem_cons, not_or]
  constructor
  · intro hclear
    have hself := hclear id (.inl rfl)
    refine ⟨hself.1, fun child hchild target hsees => ?_⟩
    have htarget := hclear target (.inr ⟨child, hchild, hsees⟩)
    refine ⟨⟨?_, htarget.1⟩, htarget.2⟩
    -- An item that leads back to its node puts the node on a cycle.
    rintro rfl
    exact hself.2 ((Heap.onCycle_iff hnode).mpr ⟨child, hchild, hsees⟩)
  · rintro ⟨hfresh, hitems⟩ target (rfl | ⟨child, hchild, hsees⟩)
    · refine ⟨hfresh, fun hcycle => ?_⟩
      obtain ⟨child, hchild, hsees⟩ := (Heap.onCycle_iff hnode).mp hcycle
      exact (hitems child hchild target hsees).1.1 rfl
    · exact ⟨(hitems child hchild target hsees).1.2, (hitems child hchild target hsees).2⟩

/-- A walk whose budget covers the nodes it is not inside of succeeds exactly at clear items. -/
theorem succeeds_text_iff (hbudget : (heap.unvisited before).card ≤ budget) :
    ∀ depth, Succeeds (text options heap budget depth item) before ↔ Clear heap before item := by
  refine covered_induction ?leaf ?inside ?fresh hbudget item
  case leaf =>
    intro budget before item hitem depth
    exact iff_of_true (succeeds_of_at?_eq_none hitem) (clear_of_at?_eq_none hitem)
  case inside =>
    intro budget before id node hnode hinside depth
    simp [Succeeds, text_of_mem hnode hinside, clear_node_iff hnode, hinside]
  case fresh =>
    intro budget before id node hnode _ ih depth
    rw [succeeds_text_node_iff hnode, clear_node_iff hnode]
    exact and_congr_right fun _ => forall₂_congr fun child hchild => ih child hchild (depth + 1)

/-- At the other items such a walk fails with a circular reference, and it fails in no other way. -/
theorem text_eq_error_iff (hbudget : (heap.unvisited before).card ≤ budget) {e : RenderError} :
    text options heap budget depth item before = .error e ↔
      e = .circularReference ∧ ¬Clear heap before item := by
  rw [(text_restores options heap budget depth item).fails_iff (text_ne_exhausted hbudget depth),
    succeeds_text_iff hbudget]

theorem contentText_congr {other : Nat}
    (hsame : ∀ child ∈ node.items,
      text options heap budget (depth + 1) child before =
        text options heap other (depth + 1) child before) :
    contentText options heap (budget + 1) depth node before =
      contentText options heap (other + 1) depth node before := by
  cases node with
  | array items =>
      have hrestores (budget) := text_restores options heap budget (depth + 1)
      simp only [contentText, map_apply,
        mapM_congr (hrestores budget) (hrestores other) items hsame]
  | object entries =>
      have hrestores (budget) := entryText_restores options heap budget (depth + 1)
      have hentries : ∀ entry ∈ entries,
          entryText options heap budget (depth + 1) entry before =
            entryText options heap other (depth + 1) entry before := by
        intro entry hmem
        simp only [entryText, map_apply, hsame entry.2 (List.mem_map_of_mem hmem)]
      simp only [contentText, map_apply,
        mapM_congr (hrestores budget) (hrestores other) entries hentries]

/-- Any two budgets that cover the nodes left to visit give the same walk. -/
theorem text_budget_congr (hbudget : (heap.unvisited before).card ≤ budget) :
    ∀ depth other, (heap.unvisited before).card ≤ other →
      text options heap budget depth item before = text options heap other depth item before := by
  refine covered_induction ?leaf ?inside ?fresh hbudget item
  case leaf =>
    intro budget before item hitem depth other _
    obtain ⟨literal, htext⟩ := text_of_at?_eq_none options hitem
    simp only [htext]
  case inside =>
    intro budget before id node hnode hinside depth other _
    rw [text_of_mem hnode hinside, text_of_mem hnode hinside]
  case fresh =>
    intro budget before id node hnode hfresh ih depth other hother
    -- The step into the node takes one from the other budget and one from the nodes left, too.
    have hcard := Heap.card_unvisited_cons hnode hfresh
    obtain ⟨other, rfl⟩ : ∃ n, other = n + 1 := ⟨other - 1, by omega⟩
    have hsame : contentText options heap (budget + 1) depth node (id :: before) =
        contentText options heap (other + 1) depth node (id :: before) :=
      contentText_congr fun child hchild => ih child hchild (depth + 1) other (by omega)
    rw [text_node hnode, text_node hnode, within_apply (contentText_restores _ _ _ _ node),
      within_apply (contentText_restores _ _ _ _ node), hsame]

end Walk

theorem renderGraph_eq_error_iff {options : Options} {heap : Heap} {root : Item} {e : RenderError} :
    renderGraph options heap root = .error e ↔
      Walk.text options heap heap.size 0 root [] = .error e := by
  show (Walk.text options heap heap.size 0 root [] >>= fun r => _) = _ ↔ _
  cases Walk.text options heap heap.size 0 root [] <;> simp [bind, Except.bind, pure, Except.pure]

theorem exists_renderGraph_eq_ok_iff {options : Options} {heap : Heap} {root : Item} :
    (∃ literal, renderGraph options heap root = .ok literal) ↔
      Walk.Succeeds (Walk.text options heap heap.size 0 root) [] := by
  have hrestores := Walk.text_restores options heap heap.size 0 root
  show (∃ literal, (Walk.text options heap heap.size 0 root [] >>= fun r => _) = _) ↔ _
  unfold Walk.Succeeds
  cases hrun : Walk.text options heap heap.size 0 root [] with
  | error e => simp [bind, Except.bind]
  | ok r =>
      obtain ⟨result, after⟩ := r
      obtain rfl : after = [] := hrestores [] result after hrun
      simp [bind, Except.bind, pure, Except.pure]

/-- Rendering a graph fails exactly if the root leads to a node that leads back to itself, and then
with a circular reference; it gives a literal in every other case. The budget of the walk has no
part in this: with any greater one the walk does the same, and it never uses the budget up. -/
theorem renderGraph_circular_iff (options : Options) (heap : Heap) (root : Item) :
    (∀ e, renderGraph options heap root = .error e ↔
        e = .circularReference ∧ ∃ id, heap.Sees root id ∧ heap.OnCycle id) ∧
      ((∃ literal, renderGraph options heap root = .ok literal) ↔
        ¬∃ id, heap.Sees root id ∧ heap.OnCycle id) ∧
      ∀ room,
        Walk.text options heap (heap.size + room) 0 root [] =
            Walk.text options heap heap.size 0 root [] ∧
          Walk.text options heap (heap.size + room) 0 root [] ≠ .error .exhausted := by
  refine ⟨fun e => ?_, ?_, fun room => ⟨?_, ?_⟩⟩
  · rw [renderGraph_eq_error_iff, Walk.text_eq_error_iff (by simp), Walk.clear_nil_iff, not_not]
  · rw [exists_renderGraph_eq_ok_iff, Walk.succeeds_text_iff (by simp), Walk.clear_nil_iff]
  · exact Walk.text_budget_congr (by simp) 0 heap.size (by simp)
  · exact Walk.text_ne_exhausted (by simp) 0

end SnippetBridge.Rhai
