import SnippetBridge.Proofs.Snippet.Declared
import SnippetBridge.Proofs.TypeScript.Sugar

/-!
Chains of members. A chain is all or nothing: it is a reference with all its names if its root is a
name and all its links are, and `null` otherwise. A link that is not a plain name leaves a member
without a property, and no member on top of that has a path.
-/

namespace SnippetBridge.TypeScript.Node

/-! ### Trees of chains -/

/-- What one link of a chain adds behind its target. -/
inductive Link where
  /-- `.name` or `.#name`, with `?.` in place of the dot if the link is optional. -/
  | member (optional isPrivate : Bool) (name : String)
  /-- `[index]`, behind `?.` if the link is optional. -/
  | subscript (optional : Bool) (index : Node)

namespace Link

def kind : Link → Kind
  | .member _ _ _ => .memberExpression
  | .subscript _ _ => .subscriptExpression

def optionalMark : Role × Node := (.plain, .leaf .optionalChain "?.")

def property (isPrivate : Bool) (name : String) : Node :=
  if isPrivate then .leaf .privatePropertyIdentifier ("#" ++ name)
  else .leaf .propertyIdentifier name

/-- The children of the link behind its target. -/
def parts : Link → Children
  | .member optional isPrivate name =>
    [if optional then optionalMark else mark ".", (.property, property isPrivate name)]
  | .subscript optional index =>
    (if optional then [optionalMark] else []) ++ [mark "[", (.plain, index), mark "]"]

/-- The name that a link adds to a path, if it is a plain one. -/
def name? : Link → Option String
  | .member false false name => some name
  | _ => none

end Link

/-- The children are these parts in this order, with blanks and comments anywhere. -/
structure Spaced (parts children : Children) : Prop where
  trivia : ∀ child ∈ children, child.2.kind.isTrivia → child.1 = .plain
  parts : children.filter (fun child => !child.2.kind.isTrivia) = parts

/-- Whether a node of a kind hands on what is read from a target inside it. -/
def continuesChain (kind : Kind) : Bool :=
  kind == .memberExpression || kind == .subscriptExpression || kind == .parenthesizedExpression

/-- The node is the root with these links behind it, of which any first ones may stand in
parentheses, with a type in front of the closing one or without. -/
inductive Chain (root : Node) : List Link → Node → Prop
  | root (hpart : root.kind.isSeparator = false) (hroot : continuesChain root.kind = false) :
      Chain root [] root
  | link {links : List Link} {target : Node} {children : Children} (h : Chain root links target)
      (link : Link) (hparts : Spaced ((.object, target) :: link.parts) children) :
      Chain root (links ++ [link]) (.branch link.kind children)
  | parenthesized {links : List Link} {target : Node} {children : Children}
      (h : Chain root links target) (rest : Children)
      (hparts : Spaced (mark "(" :: (.plain, target) :: rest) children) :
      Chain root links (.branch .parenthesizedExpression children)

/-- The name that a root is, `undefined` included. -/
def rootName? : Node → Option String
  | .leaf .identifier name | .leaf .undefined name => some name
  | _ => none

/-- The names of a chain, if its root and all its links are plain names. -/
def chainNames? (root : Node) (links : List Link) : Option (List String) := do
  let name ← rootName? root
  let names ← links.mapM Link.name?
  return name :: names

/-! ### Reading -/

variable {root node : Node} {links : List Link} {parts children : Children}

/-- Blanks and comments are passed over by a search for something else. -/
theorem Spaced.find?_eq (h : Spaced parts children) {p : Role × Node → Bool}
    (hp : ∀ child ∈ children, child.2.kind.isTrivia → p child = false) :
    children.find? p = parts.find? p := by
  rw [← h.parts, List.find?_filter]
  clear h
  induction children with
  | nil => rfl
  | cons child rest ih =>
      obtain ⟨hchild, hrest⟩ := List.forall_mem_cons.mp hp
      cases htrivia : child.2.kind.isTrivia with
      | false => simp [List.find?_cons, htrivia, ih hrest]
      | true => simp [htrivia, hchild htrivia, ih hrest]

theorem Spaced.tight (h : ∀ child ∈ parts, child.2.kind.isTrivia = false) :
    Spaced parts parts where
  trivia child hchild htrivia := absurd htrivia (by simp [h child hchild])
  parts := List.filter_eq_self.mpr (by simpa using fun role node hchild => h (role, node) hchild)

theorem Spaced.childAs?_eq (h : Spaced parts children) {role : Role} (hrole : role ≠ .plain) :
    childAs? role children = childAs? role parts := by
  rw [childAs?, childAs?, h.find?_eq fun child hchild htrivia => ?_]
  rw [h.trivia child hchild htrivia]
  exact beq_eq_false_iff_ne.mpr hrole.symm

theorem Spaced.firstPart?_eq (h : Spaced parts children) :
    firstPart? children = firstPart? parts := by
  rw [firstPart?, firstPart?, h.find?_eq fun _ _ htrivia => isPart_of_isTrivia htrivia]

theorem Spaced.plainProperty?_eq (h : Spaced parts children) :
    plainProperty? children = plainProperty? parts := by
  have hmark : children.find? (fun child => child.2.kind == .optionalChain) =
      parts.find? fun child => child.2.kind == .optionalChain := by
    refine h.find?_eq fun child _ htrivia => beq_eq_false_iff_ne.mpr fun hkind => ?_
    rw [hkind] at htrivia
    cases htrivia
  have hany : (children.any fun child => child.2.kind == .optionalChain) =
      parts.any fun child => child.2.kind == .optionalChain := by
    rw [← List.isSome_find?, ← List.isSome_find?, hmark]
  rw [plainProperty?, plainProperty?, hany, h.childAs?_eq (by decide)]

theorem Chain.not_isSeparator (h : Chain root links node) : node.kind.isSeparator = false := by
  cases h with
  | root hpart => exact hpart
  | link _ link => cases link <;> rfl
  | parenthesized => rfl

theorem plainProperty?_link {target : Node} (h : target.kind ≠ .optionalChain)
    (optional isPrivate : Bool) (name : String) :
    plainProperty? ((.object, target) :: (Link.member optional isPrivate name).parts) =
      (Link.member optional isPrivate name).name? := by
  have htarget : (target.kind == Kind.optionalChain) = false := beq_eq_false_iff_ne.mpr h
  cases optional <;> cases isPrivate <;>
    simp [plainProperty?, Link.parts, Link.name?, Link.property, Link.optionalMark, childAs?,
      htarget, text]

/-- A link is read as a member of its target, without a property unless it is a plain name. -/
theorem toExpr_link {target : Node} {link : Link} (htarget : target.kind.isSeparator = false)
    (h : Spaced ((.object, target) :: link.parts) children) :
    (Node.branch link.kind children).toExpr = .member target.toExpr link.name? := by
  have hobject : exprAs? .object children = some target.toExpr := by
    rw [exprAs?_eq_map, h.childAs?_eq (by decide)]
    rfl
  cases link with
  | member optional isPrivate name =>
      have hproperty : plainProperty? children = (Link.member optional isPrivate name).name? := by
        rw [h.plainProperty?_eq, plainProperty?_link (ne_optionalChain_of_not_isSeparator htarget)]
      simp only [Link.kind, toExpr, hobject, hproperty]
  | subscript optional index => simp only [Link.kind, toExpr, hobject, Link.name?]

theorem toExpr_inside_parentheses {target : Node} {rest : Children}
    (htarget : target.kind.isSeparator = false)
    (h : Spaced (mark "(" :: (.plain, target) :: rest) children) :
    (Node.branch .parenthesizedExpression children).toExpr = target.toExpr := by
  have hfirst : firstPart? children = some target := by
    rw [h.firstPart?_eq, firstPart?, List.find?_cons_of_neg (by decide)]
    simp [isPart_of_not_isSeparator htarget]
  simp only [toExpr, firstExpr?_eq_map, hfirst, Option.map_some, Option.getD_some]

theorem names?_root (h : continuesChain root.kind = false) :
    root.toExpr.names? = (rootName? root).map ([·]) := by
  cases root with
  | leaf kind text =>
      cases kind
      case number => cases hvalue : Numeral.value? text <;> simp [toExpr, hvalue] <;> rfl
      all_goals rfl
  | branch kind children =>
      cases kind
      case parenthesizedExpression | memberExpression | subscriptExpression => cases h
      case functionExpression | generatorFunction | arrowFunction =>
        rw [toExpr_of_isFunction rfl]
        rfl
      all_goals
        simp only [toExpr]
        rfl

theorem chainNames?_concat (root : Node) (links : List Link) (link : Link) :
    chainNames? root (links ++ [link]) =
      (chainNames? root links).bind fun names => link.name?.map fun name => names ++ [name] := by
  simp only [chainNames?, List.mapM_append, List.mapM_cons, List.mapM_nil]
  cases rootName? root <;> cases links.mapM Link.name? <;> cases link.name? <;> rfl

/-- One link that is no plain name leaves the whole chain without names. -/
theorem names?_of_chain (h : Chain root links node) :
    node.toExpr.names? = chainNames? root links := by
  induction h with
  | root _ hroot =>
      rw [names?_root hroot, chainNames?, List.mapM_nil]
      cases rootName? root <;> rfl
  | @link links target children h link hparts ih =>
      rw [toExpr_link h.not_isSeparator hparts, chainNames?_concat, ← ih]
      cases link.name? with
      | none => cases target.toExpr.names? <;> rfl
      | some name => cases hnames : target.toExpr.names? <;> simp [Expr.names?, hnames]
  | parenthesized h _ hparts ih => rw [toExpr_inside_parentheses h.not_isSeparator hparts, ih]

/-- What has a link is read as a member, inside parentheses or not. -/
theorem exists_member_of_chain (h : Chain root links node) (hlinks : links ≠ []) :
    ∃ target property, node.toExpr = .member target property := by
  induction h with
  | root => exact absurd rfl hlinks
  | link h _ hparts => exact ⟨_, _, toExpr_link h.not_isSeparator hparts⟩
  | parenthesized h _ hparts ih =>
      rw [toExpr_inside_parentheses h.not_isSeparator hparts]
      exact ih hlinks

/-- A chain of members is a reference with the names of its root and all its links if each of them
is a plain name, and `null` otherwise. -/
theorem value_of_chain (h : Chain root links node) (hlinks : links ≠ []) :
    node.toExpr.value = match chainNames? root links with
      | some names => .reference (".".intercalate names)
      | none => .null := by
  obtain ⟨target, property, hmember⟩ := exists_member_of_chain h hlinks
  rw [hmember, Expr.value, Expr.path?_eq_map_names?, ← hmember, names?_of_chain h]
  cases chainNames? root links <;> rfl

/-- A chain of three names in parentheses, with a comment in it, and a chain of which the first link
is optional. -/
theorem value_of_chain_parenthesized :
    (∃ node, ofSource? "((undefined) /* . */ .a).b" =
        some (.branch .program [(.plain, .branch .expressionStatement [(.plain, node)])]) ∧
      node.toExpr.value = .reference "undefined.a.b") ∧
    ∃ node, ofSource? "(a?.b).c" =
        some (.branch .program [(.plain, .branch .expressionStatement [(.plain, node)])]) ∧
      node.toExpr.value = .null := by
  have hundefined : Chain (.leaf .undefined "undefined") [] _ := .root rfl rfl
  have hname := hundefined.parenthesized [mark ")"] (.tight (by decide))
  have hinner : Chain _ _ (.branch .memberExpression [
      (.object, .branch .parenthesizedExpression
        [mark "(", (.plain, .leaf .undefined "undefined"), mark ")"]),
      (.plain, .leaf .blank " "), (.plain, .leaf .comment "/* . */"), (.plain, .leaf .blank " "),
      mark ".", (.property, .leaf .propertyIdentifier "a")]) :=
    hname.link (.member false false "a") ⟨by decide, rfl⟩
  have hplain := (hinner.parenthesized [mark ")"] (.tight (by decide))).link
    (.member false false "b") (.tight (by decide))
  have ha : Chain (.leaf .identifier "a") [] _ := .root rfl rfl
  have hfirst := ha.link (.member true false "b") (.tight (by decide))
  have hoptional := (hfirst.parenthesized [mark ")"] (.tight (by decide))).link
    (.member false false "c") (.tight (by decide))
  exact ⟨⟨_, by decide +kernel, value_of_chain hplain (by simp)⟩,
    _, by decide +kernel, value_of_chain hoptional (by simp)⟩

end SnippetBridge.TypeScript.Node
