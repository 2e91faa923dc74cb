import SnippetBridge.Proofs.Rhai.Sharing
import SnippetBridge.Proofs.Text.Indented
import SnippetBridge.Proofs.Text.Quoted

/-!
How the literals of nested values are laid out. A walk hands the level of a value down to what is
inside of it, but the level only puts blanks behind line ends: with quoted keys no leaf and no key
has a line end of its own. So a literal is put together from the literals that its items have on
their own, moved to the right; and the suffix comes after all of it.
-/

namespace SnippetBridge.Rhai

open Host Text

/-- What is rendered for an item, up to the suffix, whatever the suffix is. Keys are quoted. -/
def Standalone (absent : String) (heap : Heap) (item : Item) (body : List Char) : Prop :=
  ∀ suffix, renderGraph ⟨true, absent, suffix⟩ heap item = .ok (String.ofList body ++ suffix)

variable {options : Options} {heap : Heap} {item : Item} {tree : Tree} {depth : Nat}

/-! ### Tokens stand on one line -/

theorem newline_not_mem_quote (s : String) : '\n' ∉ (quote s).toList := by
  simp [quote, Quoted.newline_not_mem_encode]

theorem newline_not_mem_keyText (hquotes : options.quotes = true) (key : String) :
    '\n' ∉ keyText options key := by
  rw [keyText, if_pos hquotes]
  exact newline_not_mem_quote key

theorem newline_not_mem_toDigits (n : Nat) : '\n' ∉ Nat.toDigits 10 n := by
  intro hmem
  have hdigit := Nat.isDigit_of_mem_toDigits (by decide) (by decide) hmem
  simp at hdigit

theorem newline_not_mem_numberText (habsent : '\n' ∉ options.absent.toList) (x : Binary64) :
    '\n' ∉ numberText options x := by
  by_cases hfinite : x.isFinite
  · rw [numberText_of_isFinite options hfinite]
    obtain ⟨c, cs, htext, hc, hcs⟩ :=
      Binary64.plain_eq_cons (Binary64.isFinite_unsignedZero hfinite)
    rw [htext, List.mem_cons, not_or]
    constructor
    · rintro rfl
      simp at hc
    · intro hmem
      have hnewline := hcs _ hmem
      simp at hnewline
  · rw [numberText, if_pos hfinite]
    exact habsent

theorem newline_not_mem_leafText (habsent : '\n' ∉ options.absent.toList) {leaf : Leaf}
    (hreference : ∀ path, leaf = .reference path → '\n' ∉ path.toList) :
    '\n' ∉ leafText options leaf := by
  cases leaf with
  | undefined => exact habsent
  | null => exact habsent
  | unknown => exact habsent
  | function => exact newline_not_mem_quote _
  | bool b => cases b <;> simp [leafText, Json.boolText]
  | number x => exact newline_not_mem_numberText habsent x
  | bigInt n =>
      cases n with
      | ofNat n => exact newline_not_mem_toDigits n
      | negSucc n => simpa [leafText, Json.integerText] using newline_not_mem_toDigits (n + 1)
  | string s => exact newline_not_mem_quote s
  | symbol description => exact newline_not_mem_quote _
  | reference path => exact hreference path rfl

/-! ### Levels -/

theorem itemTexts_eq (options : Options) (depth : Nat) (trees : List Tree) :
    itemTexts options depth trees = trees.map (treeText options depth) := by
  induction trees with
  | nil => rfl
  | cons tree rest ih => rw [itemTexts, ih, List.map_cons]

theorem shifted_arrayText (levels depth : Nat) (items : List (List Char)) :
    shifted levels (arrayText depth items) =
      arrayText (depth + levels) (items.map (shifted levels)) :=
  shifted_block (by simp) (by simp) levels depth items

/-- The line of an entry whose value has a given literal. -/
def lineText (options : Options) (entry : String × List Char) : List Char :=
  keyText options entry.1 ++ ':' :: ' ' :: entry.2

theorem objectText_eq (options : Options) (depth : Nat) (entries : List (String × List Char)) :
    objectText options depth entries =
      block ['#', '\x7b'] ['\x7d'] ((Entries.sorted entries).map (lineText options)) depth := rfl

theorem shifted_lineText (hquotes : options.quotes = true) (levels : Nat)
    (entry : String × List Char) :
    shifted levels (lineText options entry) =
      lineText options (entry.1, shifted levels entry.2) := by
  rw [lineText, shifted_append, shifted_of_not_mem (newline_not_mem_keyText hquotes entry.1),
    shifted_cons (by decide), shifted_cons (by decide)]
  rfl

theorem map_lineText_sorted (hquotes : options.quotes = true) (levels : Nat)
    (entries : List (String × List Char)) :
    (Entries.sorted (entries.map fun entry => (entry.1, shifted levels entry.2))).map
        (lineText options) =
      ((Entries.sorted entries).map (lineText options)).map (shifted levels) := by
  rw [Entries.sorted_map, List.map_map, List.map_map]
  exact List.map_congr_left fun entry _ => (shifted_lineText hquotes levels entry).symm

theorem shifted_objectText (hquotes : options.quotes = true) (levels depth : Nat)
    (entries : List (String × List Char)) :
    shifted levels (objectText options depth entries) =
      objectText options (depth + levels)
        (entries.map fun entry => (entry.1, shifted levels entry.2)) := by
  rw [objectText_eq, shifted_block (by simp) (by simp), objectText_eq,
    map_lineText_sorted hquotes]

/-- No reference that an item leads to has a line end in its path. -/
def Unbroken (heap : Heap) (item : Item) : Prop :=
  ∀ path, heap.Meets item (.reference path) → '\n' ∉ path.toList

theorem Unbroken.held {id : NodeId} {node : Node} (h : Unbroken heap (.node id))
    (hnode : heap.node? id = some node) (hitem : item ∈ node.items) : Unbroken heap item :=
  fun path hpath => h path (.step hnode hitem hpath)

theorem Unbroken.nested {root inner : Item} {levels : Nat} (hroot : Unbroken heap root)
    (h : heap.Nests root levels inner) : Unbroken heap inner := by
  induction h with
  | self item => exact hroot
  | step hnode hchild _ ih => exact ih (hroot.held hnode hchild)

mutual

/-- At a deeper level a literal is the same, but with more blanks behind its line ends. -/
theorem treeText_add (hquotes : options.quotes = true) (habsent : '\n' ∉ options.absent.toList)
    {item : Item} {tree : Tree} (h : heap.Unfolds item tree) (hitem : Unbroken heap item)
    (depth levels : Nat) :
    treeText options (depth + levels) tree = shifted levels (treeText options depth tree) := by
  cases h with
  | leaf leaf =>
      rw [treeText, treeText, shifted_of_not_mem (newline_not_mem_leafText habsent ?_)]
      rintro path rfl
      exact hitem path (.leaf _)
  | missing hnode =>
      rw [treeText, treeText, shifted_of_not_mem (newline_not_mem_leafText habsent (by simp))]
  | array hnode hitems =>
      have hrows := itemTexts_add hquotes habsent hitems (fun _ => hitem.held hnode) (depth + 1)
        levels
      rw [treeText, treeText, shifted_arrayText, ← hrows, Nat.add_right_comm]
  | object hnode hentries =>
      have hrows := entryTexts_add hquotes habsent hentries
        (fun entry hentry => hitem.held hnode (List.mem_map_of_mem hentry)) (depth + 1) levels
      rw [treeText, treeText, shifted_objectText hquotes, ← hrows, Nat.add_right_comm]

theorem itemTexts_add (hquotes : options.quotes = true) (habsent : '\n' ∉ options.absent.toList)
    {items : List Item} {trees : List Tree} (h : heap.UnfoldsItems items trees)
    (hitems : ∀ item ∈ items, Unbroken heap item) (depth levels : Nat) :
    itemTexts options (depth + levels) trees =
      (itemTexts options depth trees).map (shifted levels) := by
  cases h with
  | nil => rfl
  | cons hitem hrest =>
      obtain ⟨hfirst, hothers⟩ := List.forall_mem_cons.mp hitems
      rw [itemTexts, itemTexts, treeText_add hquotes habsent hitem hfirst,
        itemTexts_add hquotes habsent hrest hothers, List.map_cons]

theorem entryTexts_add (hquotes : options.quotes = true) (habsent : '\n' ∉ options.absent.toList)
    {entries : List (String × Item)} {trees : List (String × Tree)}
    (h : heap.UnfoldsEntries entries trees) (hentries : ∀ entry ∈ entries, Unbroken heap entry.2)
    (depth levels : Nat) :
    entryTexts options (depth + levels) trees =
      (entryTexts options depth trees).map fun entry => (entry.1, shifted levels entry.2) := by
  cases h with
  | nil => rfl
  | cons hitem hrest =>
      obtain ⟨hfirst, hothers⟩ := List.forall_mem_cons.mp hentries
      rw [entryTexts, entryTexts, treeText_add hquotes habsent hitem hfirst,
        entryTexts_add hquotes habsent hrest hothers, List.map_cons]

end

/-! ### Literals of parts -/

/-- What holds of each item and the literal of what it unfolds to holds all along the entries of an
object and their literals. -/
theorem forall₂_entryTexts {R : Item → List Char → Prop}
    (hR : ∀ {item tree}, heap.Unfolds item tree → R item (treeText options depth tree))
    {entries : List (String × Item)} {trees : List (String × Tree)}
    (h : heap.UnfoldsEntries entries trees) :
    List.Forall₂ (fun entry line => entry.1 = line.1 ∧ R entry.2 line.2) entries
      (entryTexts options depth trees) := by
  cases h with
  | nil => exact .nil
  | cons hitem hrest => exact .cons ⟨rfl, hR hitem⟩ (forall₂_entryTexts hR hrest)

/-- What is nested in an item is written in the literal of the item as it is on its own at its
level. -/
theorem exists_nested {root inner : Item} {levels : Nat} (htree : heap.Unfolds root tree)
    (h : heap.Nests root levels inner) :
    ∃ part, heap.Unfolds inner part ∧ ∀ options depth,
      treeText options (depth + levels) part <:+: treeText options depth tree := by
  induction h generalizing tree with
  | self item => exact ⟨tree, htree, fun _ _ => List.infix_rfl⟩
  | @step id node child inner levels hnode hchild hinner ih =>
      -- It is enough that the literal of the child is a part, from the next level on.
      suffices hpart : ∃ held, heap.Unfolds child held ∧ ∀ options depth,
          treeText options (depth + 1) held <:+: treeText options depth tree by
        obtain ⟨held, hheld, hin⟩ := hpart
        obtain ⟨part, hpart, hdeep⟩ := ih hheld
        refine ⟨part, hpart, fun options depth => ?_⟩
        have hlevel : depth + (levels + 1) = depth + 1 + levels := by omega
        rw [hlevel]
        exact (hdeep options (depth + 1)).trans (hin options depth)
      cases htree with
      | missing hother => simp [hnode] at hother
      | array hother hitems =>
          rw [hnode] at hother
          cases hother
          obtain ⟨held, hmem, hheld⟩ := hitems.exists_of_mem hchild
          refine ⟨held, hheld, fun options depth => ?_⟩
          rw [treeText, itemTexts_eq]
          exact infix_block (List.mem_map_of_mem hmem) depth
      | @object _ _ trees hother hentries =>
          rw [hnode] at hother
          cases hother
          obtain ⟨entry, hentry, rfl⟩ := List.mem_map.mp hchild
          obtain ⟨held, hmem, hheld⟩ := hentries.exists_of_mem hentry
          refine ⟨held, hheld, fun options depth => ?_⟩
          have htext : (entry.1, treeText options (depth + 1) held) ∈
              Entries.sorted (entryTexts options (depth + 1) trees) := by
            rw [Entries.mem_sorted, entryTexts_eq]
            exact List.mem_map_of_mem hmem
          have hvalue : treeText options (depth + 1) held <:+:
              lineText options (entry.1, treeText options (depth + 1) held) :=
            ⟨keyText options entry.1 ++ [':', ' '], [], by simp [lineText]⟩
          rw [treeText, objectText_eq]
          exact hvalue.trans (infix_block (List.mem_map_of_mem htext) depth)

/-! ### Literals without the suffix -/

mutual

theorem treeText_suffix (quotes : Bool) (absent suffix other : String) (depth : Nat)
    (tree : Tree) :
    treeText ⟨quotes, absent, suffix⟩ depth tree = treeText ⟨quotes, absent, other⟩ depth tree := by
  cases tree with
  | leaf leaf => cases leaf <;> rfl
  | array trees =>
      rw [treeText, treeText, itemTexts_suffix quotes absent suffix other (depth + 1) trees]
  | object trees =>
      rw [treeText, treeText, entryTexts_suffix quotes absent suffix other (depth + 1) trees]
      rfl

theorem itemTexts_suffix (quotes : Bool) (absent suffix other : String) (depth : Nat)
    (trees : List Tree) :
    itemTexts ⟨quotes, absent, suffix⟩ depth trees =
      itemTexts ⟨quotes, absent, other⟩ depth trees := by
  cases trees with
  | nil => rfl
  | cons tree rest =>
      rw [itemTexts, itemTexts, treeText_suffix quotes absent suffix other depth tree,
        itemTexts_suffix quotes absent suffix other depth rest]

theorem entryTexts_suffix (quotes : Bool) (absent suffix other : String) (depth : Nat)
    (trees : List (String × Tree)) :
    entryTexts ⟨quotes, absent, suffix⟩ depth trees =
      entryTexts ⟨quotes, absent, other⟩ depth trees := by
  cases trees with
  | nil => rfl
  | cons entry rest =>
      rw [entryTexts, entryTexts, treeText_suffix quotes absent suffix other depth entry.2,
        entryTexts_suffix quotes absent suffix other depth rest]

end

/-- The literal of a tree with quoted keys, without a suffix. -/
def bodyText (absent : String) (tree : Tree) : List Char := treeText ⟨true, absent, ""⟩ 0 tree

theorem standalone_of_unfolds (absent : String) (h : heap.Unfolds item tree) :
    Standalone absent heap item (bodyText absent tree) := by
  intro suffix
  rw [renderGraph_of_unfolds _ h, renderTree, treeText_suffix true absent suffix "" 0 tree]
  rfl

theorem standalone_items (absent : String) {items : List Item} {trees : List Tree}
    (h : heap.UnfoldsItems items trees) :
    List.Forall₂ (Standalone absent heap) items (itemTexts ⟨true, absent, ""⟩ 0 trees) := by
  cases h with
  | nil => exact .nil
  | cons hitem hrest =>
      exact .cons (standalone_of_unfolds absent hitem) (standalone_items absent hrest)

theorem standalone_entries (absent : String) {entries : List (String × Item)}
    {trees : List (String × Tree)} (h : heap.UnfoldsEntries entries trees) :
    List.Forall₂ (fun entry line => entry.1 = line.1 ∧ Standalone absent heap entry.2 line.2)
      entries (entryTexts ⟨true, absent, ""⟩ 0 trees) :=
  forall₂_entryTexts (standalone_of_unfolds absent) h

theorem bodyText_array {absent : String} (habsent : '\n' ∉ absent.toList) {items : List Item}
    {trees : List Tree} (h : heap.UnfoldsItems items trees)
    (hitems : ∀ item ∈ items, Unbroken heap item) (hne : items ≠ []) :
    bodyText absent (.array trees) =
      framed ['['] [']'] (itemTexts ⟨true, absent, ""⟩ 0 trees) := by
  have hrows : itemTexts ⟨true, absent, ""⟩ (0 + 1) trees =
      (itemTexts ⟨true, absent, ""⟩ 0 trees).map (shifted 1) :=
    itemTexts_add rfl habsent h hitems 0 1
  have htexts : itemTexts ⟨true, absent, ""⟩ 0 trees ≠ [] := by
    cases h with
    | nil => exact absurd rfl hne
    | cons _ _ => simp [itemTexts]
  rw [bodyText, treeText, hrows, arrayText, block_eq_framed htexts]

theorem bodyText_object {absent : String} (habsent : '\n' ∉ absent.toList)
    {entries : List (String × Item)} {trees : List (String × Tree)}
    (h : heap.UnfoldsEntries entries trees) (hentries : ∀ entry ∈ entries, Unbroken heap entry.2)
    (hne : entries ≠ []) :
    bodyText absent (.object trees) =
      framed ['#', '\x7b'] ['\x7d']
        ((Entries.sorted (entryTexts ⟨true, absent, ""⟩ 0 trees)).map fun line =>
          (quote line.1).toList ++ ':' :: ' ' :: line.2) := by
  have hrows : entryTexts ⟨true, absent, ""⟩ (0 + 1) trees =
      (entryTexts ⟨true, absent, ""⟩ 0 trees).map fun entry => (entry.1, shifted 1 entry.2) :=
    entryTexts_add rfl habsent h hentries 0 1
  have htexts : (Entries.sorted (entryTexts ⟨true, absent, ""⟩ 0 trees)).map
      (lineText ⟨true, absent, ""⟩) ≠ [] := by
    cases h with
    | nil => exact absurd rfl hne
    | cons _ _ => simp [entryTexts, ← List.length_eq_zero_iff, Entries.length_sorted]
  rw [bodyText, treeText, hrows, objectText_eq, map_lineText_sorted rfl, block_eq_framed htexts]
  rfl

/-! ### Layout -/

/-- What is nested in an item is a part of its body, moved to the level that it is nested at. -/
theorem exists_part {absent : String} (habsent : '\n' ∉ absent.toList) {root inner : Item}
    {tree : Tree} {levels : Nat} (htree : heap.Unfolds root tree) (hroot : Unbroken heap root)
    (h : heap.Nests root levels inner) :
    ∃ part, heap.Unfolds inner part ∧ Unbroken heap inner ∧
      shifted levels (bodyText absent part) <:+: bodyText absent tree := by
  obtain ⟨part, hpart, hin⟩ := exists_nested htree h
  have hinner := hroot.nested h
  refine ⟨part, hpart, hinner, ?_⟩
  rw [bodyText, ← treeText_add rfl habsent hpart hinner]
  exact hin _ 0

/-- With quoted keys, and where neither what is written for what is absent nor a reference has a
line end, the literal of an item without cycles is a body with the suffix behind it. The body of an
array frames the bodies of its items, and the body of an object frames those of its entries, with
their keys in front of them and in the order of the keys. So whatever is nested in the item is
written as its own body with two blanks for each level behind each line end, and that is a part of
the body. -/
theorem renderGraph_layout {absent : String} {heap : Heap} {root : Item}
    (habsent : '\n' ∉ absent.toList) (hroot : heap.Acyclic root)
    (hreferences : ∀ path, heap.Meets root (.reference path) → '\n' ∉ path.toList) :
    ∃ body, Standalone absent heap root body ∧
      (∀ id items, root = .node id → heap.node? id = some (.array items) → items ≠ [] →
        ∃ bodies, List.Forall₂ (Standalone absent heap) items bodies ∧
          body = framed ['['] [']'] bodies) ∧
      (∀ id entries, root = .node id → heap.node? id = some (.object entries) → entries ≠ [] →
        ∃ lines : List (String × List Char),
          List.Forall₂ (fun entry line => entry.1 = line.1 ∧ Standalone absent heap entry.2 line.2)
              (Entries.sorted entries) lines ∧
            body = framed ['#', '\x7b'] ['\x7d']
              (lines.map fun line => (quote line.1).toList ++ ':' :: ' ' :: line.2)) ∧
      ∀ levels inner, heap.Nests root levels inner →
        ∃ part, Standalone absent heap inner part ∧ shifted levels part <:+: body ∧
          ∀ suffix budget before literal after,
            Walk.text ⟨true, absent, suffix⟩ heap budget levels inner before =
                .ok (literal, after) →
              literal = shifted levels part := by
  have hline : Unbroken heap root := hreferences
  obtain ⟨tree, htree, -⟩ := exists_unfolds_of_acyclic .standard hroot
  refine ⟨bodyText absent tree, standalone_of_unfolds absent htree, ?_, ?_, ?_⟩
  · rintro id items rfl hnode hne
    cases htree with
    | missing hother => simp [hnode] at hother
    | object hother _ => simp [hnode] at hother
    | array hother hitems =>
        rw [hnode] at hother
        cases hother
        exact ⟨_, standalone_items absent hitems,
          bodyText_array habsent hitems (fun _ => hline.held hnode) hne⟩
  · rintro id entries rfl hnode hne
    cases htree with
    | missing hother => simp [hnode] at hother
    | array hother _ => simp [hnode] at hother
    | object hother hentries =>
        rw [hnode] at hother
        cases hother
        have hheld (entry) (hentry : entry ∈ entries) : Unbroken heap entry.2 :=
          hline.held hnode (List.mem_map_of_mem hentry)
        exact ⟨_, Entries.forall₂_sorted (fun _ _ h => h.1) (standalone_entries absent hentries),
          bodyText_object habsent hentries hheld hne⟩
  · intro levels inner hinner
    obtain ⟨part, hpart, hinside, hin⟩ := exists_part habsent htree hline hinner
    refine ⟨bodyText absent part, standalone_of_unfolds absent hpart, hin, ?_⟩
    intro suffix budget before literal after hrun
    obtain ⟨other, hother, rfl⟩ := Walk.text_shows _ heap budget levels inner _ _ _ hrun
    rw [hother.unique hpart, treeText_suffix true absent suffix "" levels part, bodyText,
      ← treeText_add rfl habsent hpart hinside, Nat.zero_add]

/-- An array with a string of two lines in it, inside of an object with a reference. -/
def nestedHeap : Heap :=
  ⟨#[.array [.leaf (.string "a\nb"), .leaf .null],
    .object [("k", .node 0), ("a", .leaf (.reference "x.y"))]]⟩

/-- The array is written one level deeper than on its own; the string has no line end to move. -/
theorem renderGraph_layout_nested :
    '\n' ∉ "()".toList ∧ nestedHeap.Acyclic (.node 1) ∧
      (∀ path, nestedHeap.Meets (.node 1) (.reference path) → '\n' ∉ path.toList) ∧
      ∃ body, Standalone "()" nestedHeap (.node 1) body ∧
        (∃ lines : List (String × List Char),
          List.Forall₂
              (fun entry line => entry.1 = line.1 ∧ Standalone "()" nestedHeap entry.2 line.2)
              (Entries.sorted [("k", .node 0), ("a", .leaf (.reference "x.y"))]) lines ∧
            body = framed ['#', '\x7b'] ['\x7d']
              (lines.map fun line => (quote line.1).toList ++ ':' :: ' ' :: line.2)) ∧
        ∃ part, Standalone "()" nestedHeap (.node 0) part ∧ shifted 1 part <:+: body := by
  have htree : nestedHeap.Unfolds (.node 1)
      (.object [("k", .array [.leaf (.string "a\nb"), .leaf .null]),
        ("a", .leaf (.reference "x.y"))]) :=
    .object rfl (.cons (.array rfl (.cons (.leaf _) (.cons (.leaf _) .nil)))
      (.cons (.leaf _) .nil))
  have hreferences : ∀ path, nestedHeap.Meets (.node 1) (.reference path) → '\n' ∉ path.toList := by
    intro path hpath
    have hobject : nestedHeap.node? 1 =
        some (.object [("k", .node 0), ("a", .leaf (.reference "x.y"))]) := rfl
    have harray : nestedHeap.node? 0 = some (.array [.leaf (.string "a\nb"), .leaf .null]) := rfl
    obtain rfl : path = "x.y" := by
      simpa [Heap.meets_node_iff hobject, Heap.meets_node_iff harray, Heap.meets_leaf_iff,
        Node.items] using hpath
    decide
  have habsent : '\n' ∉ "()".toList := by decide
  obtain ⟨body, hbody, -, hobject, hnested⟩ :=
    renderGraph_layout habsent htree.acyclic hreferences
  obtain ⟨part, hpart, hin, -⟩ := hnested 1 (.node 0) (.step rfl List.mem_cons_self (.self _))
  exact ⟨habsent, htree.acyclic, hreferences, body, hbody, hobject 1 _ rfl rfl (by simp),
    part, hpart, hin⟩

end SnippetBridge.Rhai
