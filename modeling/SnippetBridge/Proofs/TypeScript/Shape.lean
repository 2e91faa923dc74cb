import Mathlib.Data.List.TakeDrop
import Mathlib.Data.List.TakeWhile
import SnippetBridge.Proofs.Text.Scan
import SnippetBridge.TypeScript.Grammar

/-!
The shape of the trees that the grammar reads. Where the reading of a snippet depends on it, a kind
of node admits only children of certain kinds. The rules are checked for that one by one; what they
read keeps it, because wrapping nodes and giving them roles does.
-/

namespace SnippetBridge.TypeScript

/-! ### Tidy trees -/

namespace Kind

/-- Whether nodes of a kind are tokens. Tokens are leaves and all other nodes have children. -/
def isToken : Kind → Bool
  | .blank | .comment | .mark | .hashBangLine | .identifier | .undefined | .propertyIdentifier
  | .privatePropertyIdentifier | .shorthandPropertyIdentifier | .shorthandPropertyIdentifierPattern
  | .statementIdentifier | .optionalChain | .number | .stringFragment | .escapeSequence | .regex
  | .trueLiteral | .falseLiteral | .nullLiteral | .this | .superKeyword | .importKeyword => true
  | _ => false

theorem isToken_of_isTrivia {kind : Kind} (h : kind.isTrivia) : kind.isToken := by
  revert h
  cases kind <;> decide

theorem not_isTrivia_of_not_isToken {kind : Kind} (h : kind.isToken = false) :
    kind.isTrivia = false := by
  revert h
  cases kind <;> decide

/-- The kinds of node that a parent admits in a role, where not all of them are: keys and names of
properties, and the properties of a pattern. -/
def admitted? : Kind → Role → Option (List Kind)
  | .pair, .key | .pairPattern, .key | .methodDefinition, .name =>
    some [.propertyIdentifier, .privatePropertyIdentifier, .string, .number, .computedPropertyName]
  | .objectPattern, _ =>
    some [.mark, .shorthandPropertyIdentifierPattern, .objectAssignmentPattern, .pairPattern,
      .restPattern]
  | _, _ => none

def admits (parent : Kind) (role : Role) (kind : Kind) : Bool :=
  (parent.admitted? role).all fun kinds => kinds.contains kind

/-- Whether a parent admits all kinds in all roles. -/
def isFree : Kind → Bool
  | .pair | .pairPattern | .methodDefinition | .objectPattern => false
  | _ => true

theorem admits_of_admitted?_eq_none {parent : Kind} {role : Role}
    (h : parent.admitted? role = none) (kind : Kind) : parent.admits role kind := by
  rw [admits, h]
  rfl

theorem admits_of_isFree {parent : Kind} (h : parent.isFree) (role : Role) (kind : Kind) :
    parent.admits role kind := by
  apply admits_of_admitted?_eq_none
  revert h
  cases parent <;> simp [isFree, admitted?]

end Kind

namespace Node

mutual

/-- A tree whose leaves are its tokens, in which blanks and comments have no role and do not look
like commas, and every other node is admitted by its parent. -/
def Tidy : Node → Prop
  | .leaf kind text => kind.isToken = true ∧ (kind.isTrivia = true → text ≠ ",")
  | .branch kind children => kind.isToken = false ∧ TidyChildren kind children

def TidyChildren (parent : Kind) : List (Role × Node) → Prop
  | [] => True
  | (role, node) :: rest =>
    (node.Tidy ∧
      if node.kind.isTrivia then role = .plain else parent.admits role node.kind = true) ∧
    TidyChildren parent rest

end

/-- A tidy child that a parent admits once it has been given a role. -/
def Fits (parent : Kind) (part : Option Role) (child : Role × Node) : Prop :=
  child.2.Tidy ∧
    if child.2.kind.isTrivia then child.1 = .plain
    else parent.admits (part.getD child.1) child.2.kind = true

variable {kind parent : Kind} {part : Option Role} {child : Role × Node} {children : Children}

theorem tidyChildren_iff :
    TidyChildren parent children ↔ ∀ child ∈ children, Fits parent none child := by
  induction children with
  | nil => simp [TidyChildren]
  | cons child rest ih => simp [TidyChildren, Fits, ih]

theorem Fits.of_isTrivia (h : Fits parent part child) (htrivia : child.2.kind.isTrivia)
    (parent' : Kind) (part' : Option Role) : Fits parent' part' child := by
  simpa only [Fits, htrivia, if_true] using h

theorem Fits.of_admits (h : Fits parent part child) {parent' : Kind} {part' : Option Role}
    (hadmits : parent'.admits (part'.getD child.1) child.2.kind) : Fits parent' part' child := by
  refine ⟨h.1, ?_⟩
  split
  · next htrivia => simpa only [htrivia, if_true] using h.2
  · exact hadmits

theorem fits_assign {role : Role}
    (h : ∀ child ∈ children, Fits parent (some (part.getD role)) child) :
    ∀ child ∈ assign role children, Fits parent part child := by
  intro child hchild
  obtain ⟨⟨old, node⟩, hold, rfl⟩ := List.mem_map.mp hchild
  have hfits := h _ hold
  by_cases htrivia : node.kind.isTrivia
  · simpa only [if_pos htrivia] using hfits.of_isTrivia htrivia parent part
  · simpa [Fits, htrivia] using hfits

theorem fits_wrap (hkind : kind.isToken = false) (hadmits : parent.admits (part.getD .plain) kind)
    (h : ∀ child ∈ children, Fits kind none child) :
    ∀ child ∈ wrap kind children, Fits parent part child := by
  intro child hchild
  rw [wrap, List.span_eq_takeWhile_dropWhile] at hchild
  rcases List.mem_append.mp hchild with hlead | hnode
  · have hmem := List.mem_takeWhile_imp hlead
    exact (h child ((List.takeWhile_sublist _).subset hlead)).of_isTrivia hmem parent part
  · obtain rfl := List.mem_singleton.mp hnode
    have htrivia := Kind.not_isTrivia_of_not_isToken hkind
    have hcore : TidyChildren kind (children.dropWhile fun child => child.2.kind.isTrivia) :=
      tidyChildren_iff.mpr fun child hmem => h child ((List.dropWhile_sublist _).subset hmem)
    refine ⟨⟨hkind, hcore⟩, ?_⟩
    simpa [Node.kind, htrivia] using hadmits

end Node

/-! ### Rules -/

namespace Rule

variable {σ : Type}

mutual

/-- Whether a parent admits all that a rule gives it, and so on for the nodes inside. What has been
read may be given a role later on, which then replaces the one that the rule gives. -/
def conforms (parent : Kind) (part : Option Role) : Rule σ → Bool
  | token kind _ | adjacent kind _ =>
    kind.isToken && !kind.isTrivia && parent.admits (part.getD .plain) kind
  | check _ | ahead _ | notAhead _ => true
  | all rules | any rules => conformsAll parent part rules
  | many rule | optional rule => conforms parent part rule
  | node kind rule =>
    !kind.isToken && parent.admits (part.getD .plain) kind && conforms kind none rule
  | role part' rule => conforms parent (some (part.getD part')) rule
  | chain base suffixes => conforms parent part base && conformsSuffixes parent part suffixes
  | symbol _ => parent.isFree || part.any fun part => (parent.admitted? part).isNone

def conformsAll (parent : Kind) (part : Option Role) : List (Rule σ) → Bool
  | [] => true
  | rule :: rules => conforms parent part rule && conformsAll parent part rules

/-- A suffix may take any node, even the outcome of another suffix, so what it makes of the node has
to admit all children. -/
def conformsSuffixes (parent : Kind) (part : Option Role) :
    List ((Kind → Bool) × Kind × Role × Rule σ) → Bool
  | [] => true
  | (_, kind, _, rule) :: suffixes =>
    !kind.isToken && kind.isFree && parent.admits (part.getD .plain) kind &&
      conforms kind none rule && conformsSuffixes parent part suffixes

end

end Rule

/-! ### Blanks and comments -/

open Text (Scan)

namespace Trivia

/-- A comment begins with a slash. -/
theorem exists_of_comment {cs text rest : List Char} (h : comment cs = some (text, rest)) :
    ∃ more, text = '/' :: more := by
  simp only [comment, Scan.orElse_eq_some_iff, Scan.bind_eq_some_iff, Scan.pure_eq_some_iff] at h
  rcases h with ⟨_, _, -, more, _, -, htext⟩ | ⟨-, _, _, -, more, _, -, htext⟩
  all_goals exact ⟨_, (Prod.mk.inj htext).1⟩

theorem ofList_cons_ne_comma {c : Char} {more : List Char} (h : c ≠ ',') :
    String.ofList (c :: more) ≠ "," := by
  intro heq
  have := congrArg String.toList heq
  simp [h] at this

theorem fits_of_piece {parent : Kind} {part : Option Role} {cs rest : List Char}
    {child : Role × Node} (h : piece cs = some (child, rest)) :
    Node.Fits parent part child := by
  simp only [piece, Scan.orElse_eq_some_iff, Scan.bind_eq_some_iff, Scan.pure_eq_some_iff] at h
  rcases h with ⟨text, _, hblank, hchild⟩ | ⟨-, text, _, hcomment, hchild⟩
  · obtain ⟨rfl, -⟩ := Prod.mk.inj hchild
    obtain ⟨c, more, rfl, hc⟩ := Scan.exists_of_run1 hblank
    refine ⟨⟨rfl, fun _ => ofList_cons_ne_comma ?_⟩, rfl⟩
    rintro rfl
    exact absurd hc (by decide)
  · obtain ⟨rfl, -⟩ := Prod.mk.inj hchild
    obtain ⟨more, rfl⟩ := exists_of_comment hcomment
    exact ⟨⟨rfl, fun _ => ofList_cons_ne_comma (by decide)⟩, rfl⟩

theorem fits_of_skip {parent : Kind} {part : Option Role} (cs : List Char) :
    ∀ child ∈ (skip cs).1, Node.Fits parent part child := by
  rw [skip]
  split
  · next pieces rest h => exact Scan.forall_of_repeated fits_of_piece cs h
  · simp

end Trivia

/-! ### Reading -/

/-- A parser whose children all have a property. -/
def Parser.Reads (holds : Role × Node → Prop) (parser : Parser) : Prop :=
  ∀ {cs rest children}, parser cs = some (children, rest) → ∀ child ∈ children, holds child

namespace Rule

open Node (Fits)

variable {σ : Type} {parent : Kind} {part : Option Role}

theorem reads_leaf {kind : Kind} {scan : Scan (List Char)} (htoken : kind.isToken)
    (htrivia : kind.isTrivia = false) (hadmits : parent.admits (part.getD .plain) kind) :
    Parser.Reads (Fits parent part) (leaf kind scan) := by
  intro cs rest children h
  simp only [leaf, Option.bind_eq_bind, Option.bind_eq_some_iff, Option.pure_def, Option.some.injEq,
    Prod.mk.injEq] at h
  obtain ⟨⟨text, _⟩, -, rfl, -⟩ := h
  simpa [Fits, Node.Tidy, Node.kind, htoken, htrivia] using hadmits

theorem reads_repeated {holds : Role × Node → Prop} {parser : Parser} (h : parser.Reads holds)
    (fuel : List Char) : Parser.Reads holds (repeated parser fuel) := by
  induction fuel with
  | nil =>
      rintro cs rest children ⟨⟩
      simp
  | cons _ fuel ih =>
      intro cs rest children hread
      rw [repeated] at hread
      split at hread
      · obtain ⟨rfl, -⟩ := Prod.mk.inj (Option.some.inj hread)
        simp
      · next first more hfirst =>
          simp only [Option.bind_eq_bind, Option.bind_eq_some_iff, Option.pure_def,
            Option.some.injEq, Prod.mk.injEq] at hread
          obtain ⟨⟨others, _⟩, hothers, rfl, -⟩ := hread
          exact List.forall_mem_append.mpr ⟨h hfirst, ih hothers⟩

/-- What is known about a suffix once it has been read. -/
structure FitsSuffix (parent : Kind) (part : Option Role) (kind : Kind)
    (children : Node.Children) : Prop where
  branches : kind.isToken = false
  isFree : kind.isFree
  admits : parent.admits (part.getD .plain) kind
  fits : ∀ child ∈ children, Fits kind none child

theorem fits_extended
    {suffix : Kind → List Char → Option (Kind × Role × Node.Children × List Char)}
    (hsuffix : ∀ {base cs kind role children rest},
      suffix base cs = some (kind, role, children, rest) → FitsSuffix parent part kind children)
    (fuel : List Char) {base children : Node.Children} {cs rest : List Char}
    (hbase : ∀ child ∈ base, Fits parent part child)
    (h : extended suffix fuel base cs = some (children, rest)) :
    ∀ child ∈ children, Fits parent part child := by
  induction fuel generalizing base cs with
  | nil =>
      obtain ⟨rfl, -⟩ := Prod.mk.inj (Option.some.inj h)
      exact hbase
  | cons _ fuel ih =>
      rw [extended] at h
      split at h
      · obtain ⟨rfl, -⟩ := Prod.mk.inj (Option.some.inj h)
        exact hbase
      · next kind role added more hadded =>
          obtain ⟨last, -, hadded⟩ := Option.bind_eq_some_iff.mp hadded
          have hfits := hsuffix hadded
          refine ih (Node.fits_wrap hfits.branches hfits.admits ?_) h
          -- whatever became of the base before, the larger node admits it
          refine List.forall_mem_append.mpr ⟨Node.fits_assign fun child hchild => ?_, hfits.fits⟩
          exact (hbase child hchild).of_admits (Kind.admits_of_isFree hfits.isFree _ _)

variable {resolve : σ → Parser}

mutual

/-- A parent admits all that a rule reads for it, if the rule conforms to that. -/
theorem reads_parse (hresolve : ∀ name, (resolve name).Reads (Fits .program none)) (rule : Rule σ)
    {parent : Kind} {part : Option Role} (h : rule.conforms parent part) :
    Parser.Reads (Fits parent part) (parse resolve rule) := by
  intro cs rest children hread
  cases rule with
  | token kind scan =>
      simp only [conforms, Bool.and_eq_true, Bool.not_eq_true'] at h
      simp only [parse, Option.bind_eq_bind, Option.bind_eq_some_iff, Option.pure_def,
        Option.some.injEq, Prod.mk.injEq] at hread
      obtain ⟨⟨token, _⟩, htoken, rfl, -⟩ := hread
      exact List.forall_mem_append.mpr
        ⟨Trivia.fits_of_skip cs, reads_leaf h.1.1 h.1.2 h.2 htoken⟩
  | adjacent kind scan =>
      simp only [conforms, Bool.and_eq_true, Bool.not_eq_true'] at h
      exact reads_leaf h.1.1 h.1.2 h.2 hread
  | check holds =>
      simp only [parse] at hread
      split at hread <;> simp_all
  | ahead rule =>
      simp only [parse, Option.map_eq_some_iff, Prod.mk.injEq] at hread
      obtain ⟨_, -, rfl, -⟩ := hread
      simp
  | notAhead rule =>
      simp only [parse] at hread
      split at hread <;> simp_all
  | all rules => exact reads_parseAll hresolve rules h hread
  | any rules => exact reads_parseAny hresolve rules h hread
  | many rule => exact reads_repeated (reads_parse hresolve rule h) cs hread
  | optional rule =>
      simp only [parse] at hread
      split at hread
      · next result hresult =>
          obtain rfl := Option.some.inj hread
          exact reads_parse hresolve rule h hresult
      · obtain ⟨rfl, -⟩ := Prod.mk.inj (Option.some.inj hread)
        simp
  | node kind rule =>
      simp only [conforms, Bool.and_eq_true, Bool.not_eq_true'] at h
      simp only [parse, Option.map_eq_some_iff, Prod.mk.injEq] at hread
      obtain ⟨⟨inner, _⟩, hinner, rfl, -⟩ := hread
      exact Node.fits_wrap h.1.1 h.1.2 (reads_parse hresolve rule h.2 hinner)
  | role part' rule =>
      simp only [parse, Option.map_eq_some_iff, Prod.mk.injEq] at hread
      obtain ⟨⟨inner, _⟩, hinner, rfl, -⟩ := hread
      exact Node.fits_assign (reads_parse hresolve rule h hinner)
  | chain base suffixes =>
      simp only [conforms, Bool.and_eq_true] at h
      simp only [parse, Option.bind_eq_bind, Option.bind_eq_some_iff] at hread
      obtain ⟨⟨first, more⟩, hfirst, hread⟩ := hread
      exact fits_extended (fits_parseSuffix hresolve suffixes h.2) more
        (reads_parse hresolve base h.1 hfirst) hread
  | symbol name =>
      intro child hchild
      refine (hresolve name hread child hchild).of_admits ?_
      rcases Bool.or_eq_true .. |>.mp h with hfree | hpart
      · exact Kind.admits_of_isFree hfree _ _
      · obtain ⟨role, rfl, hrole⟩ := Option.any_eq_true .. |>.mp hpart
        exact Kind.admits_of_admitted?_eq_none (Option.isNone_iff_eq_none.mp hrole) _

theorem reads_parseAll (hresolve : ∀ name, (resolve name).Reads (Fits .program none))
    (rules : List (Rule σ)) {parent : Kind} {part : Option Role}
    (h : conformsAll parent part rules) :
    Parser.Reads (Fits parent part) (parseAll resolve rules) := by
  intro cs rest children hread
  cases rules with
  | nil =>
      obtain ⟨rfl, -⟩ := Prod.mk.inj (Option.some.inj hread)
      simp
  | cons rule rules =>
      simp only [conformsAll, Bool.and_eq_true] at h
      simp only [parseAll, Option.bind_eq_bind, Option.bind_eq_some_iff, Option.pure_def,
        Option.some.injEq, Prod.mk.injEq] at hread
      obtain ⟨⟨first, _⟩, hfirst, ⟨others, _⟩, hothers, rfl, -⟩ := hread
      exact List.forall_mem_append.mpr
        ⟨reads_parse hresolve rule h.1 hfirst, reads_parseAll hresolve rules h.2 hothers⟩

theorem reads_parseAny (hresolve : ∀ name, (resolve name).Reads (Fits .program none))
    (rules : List (Rule σ)) {parent : Kind} {part : Option Role}
    (h : conformsAll parent part rules) :
    Parser.Reads (Fits parent part) (parseAny resolve rules) := by
  intro cs rest children hread
  cases rules with
  | nil => contradiction
  | cons rule rules =>
      simp only [conformsAll, Bool.and_eq_true] at h
      simp only [parseAny] at hread
      split at hread
      · next result hresult =>
          obtain rfl := Option.some.inj hread
          exact reads_parse hresolve rule h.1 hresult
      · exact reads_parseAny hresolve rules h.2 hread

theorem fits_parseSuffix (hresolve : ∀ name, (resolve name).Reads (Fits .program none))
    (suffixes : List ((Kind → Bool) × Kind × Role × Rule σ)) {parent : Kind} {part : Option Role}
    (h : conformsSuffixes parent part suffixes) {base kind : Kind} {role : Role}
    {children : Node.Children} {cs rest : List Char}
    (hread : parseSuffix resolve suffixes base cs = some (kind, role, children, rest)) :
    FitsSuffix parent part kind children := by
  match suffixes with
  | [] => contradiction
  | (applies, kind', part', rule) :: suffixes =>
      simp only [conformsSuffixes, Bool.and_eq_true, Bool.not_eq_true'] at h
      obtain ⟨⟨⟨⟨hbranches, hfree⟩, hadmits⟩, hrule⟩, hsuffixes⟩ := h
      simp only [parseSuffix] at hread
      split at hread
      · next found hfound =>
          obtain ⟨rfl, -, rfl, -⟩ := by simpa using hread
          split at hfound
          · exact ⟨hbranches, hfree, hadmits, reads_parse hresolve rule hrule hfound⟩
          · contradiction
      · exact fits_parseSuffix hresolve suffixes hsuffixes hread

end

/-- What the symbols of a grammar read is tidy at any depth. -/
theorem reads_read {grammar : σ → Rule σ} (h : ∀ name, (grammar name).conforms .program none)
    (depth : Nat) (name : σ) : (read grammar depth name).Reads (Fits .program none) := by
  induction depth generalizing name with
  | zero =>
      intro cs rest children hread
      contradiction
  | succ depth ih => exact reads_parse ih (grammar name) (h name)

end Rule

theorem Grammar.conforms_rule (name : Symbol) : (rule name).conforms .program none := by
  cases name <;> decide +kernel

theorem Grammar.conforms_programRule : programRule.conforms .program none := by
  decide +kernel

/-- The trees of sources are tidy. -/
theorem Node.tidy_of_ofSource? {source : String} {program : Node}
    (h : ofSource? source = some program) : program.Tidy := by
  simp only [ofSource?, Option.bind_eq_bind, Option.bind_eq_some_iff] at h
  obtain ⟨⟨children, rest⟩, hread, h⟩ := h
  split at h
  · obtain rfl := Option.some.inj h
    refine ⟨rfl, tidyChildren_iff.mpr (List.forall_mem_append.mpr ⟨?_, Trivia.fits_of_skip rest⟩)⟩
    exact Rule.reads_parse (Rule.reads_read Grammar.conforms_rule _) _
      Grammar.conforms_programRule hread
  · contradiction

end SnippetBridge.TypeScript
