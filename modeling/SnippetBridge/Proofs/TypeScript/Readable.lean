import SnippetBridge.Proofs.Snippet.Tagged
import SnippetBridge.Proofs.Value.Decidable
import SnippetBridge.TypeScript.Source

/-!
Sources and the JSON form of their statements. Every number of a statement is denoted by a literal
of its source. A decimal that is too large denotes a number that is not finite; without one, a
statement is read back from its text and declares what the source declares.
-/

namespace SnippetBridge.TypeScript

namespace Node

/-! ### Finite numbers -/

mutual

/-- Whether no numeric literal in a tree denotes a number that is not finite. -/
def isFinite : Node → Bool
  | .leaf kind text => kind != .number || (Numeral.value? text).all Binary64.isFinite
  | .branch _ children => allFinite children

def allFinite : List (Role × Node) → Bool
  | [] => true
  | (_, node) :: rest => node.isFinite && allFinite rest

end

variable {kind : Kind} {text : String} {children : List (Role × Node)}

theorem isFinite_toExpr_leaf (h : (Node.leaf kind text).isFinite) :
    (Node.leaf kind text).toExpr.isFinite := by
  cases kind with
  | number =>
      have hvalue : (Numeral.value? text).all Binary64.isFinite := by simpa [isFinite] using h
      rw [toExpr]
      cases hx : Numeral.value? text with
      | none => rfl
      | some x => simpa [hx, Expr.number, Expr.isFinite, Literal.isFinite] using hvalue
  | _ => rfl

theorem isFinite_toPattern_leaf : (Node.leaf kind text).toPattern.isFinite := by
  cases kind <;> rfl

mutual

theorem isFinite_toExpr (node : Node) (h : node.isFinite) : node.toExpr.isFinite := by
  cases node with
  | leaf kind text => exact isFinite_toExpr_leaf h
  | branch kind children =>
      rw [isFinite] at h
      have hobject := isFinite_exprAs? .object children h
      have hparameter := isFinite_patternAs? .parameter children h
      rw [toExpr.eq_def]
      simp only
      split
      · have hfirst := isFinite_firstExpr? children h
        cases he : firstExpr? children with
        | none => rfl
        | some e => simpa [he] using hfirst
      -- the three kinds of function, then the two kinds of access
      iterate 3
        · cases hp : patternAs? .parameter children with
          | none => simpa [Expr.isFinite] using isFinite_formalParams children h
          | some p => simpa [hp, Expr.isFinite, Pattern.allFinite] using hparameter
      · rfl
      iterate 2
        · cases he : exprAs? .object children with
          | none => rfl
          | some e => simpa [he, Expr.isFinite] using hobject
      · exact isFinite_exprSlots false children h
      · exact isFinite_properties children h
      · rfl

theorem isFinite_exprAs? (role : Role) (children : List (Role × Node))
    (h : allFinite children) : (exprAs? role children).all Expr.isFinite := by
  cases children with
  | nil => rfl
  | cons child rest =>
      obtain ⟨r, node⟩ := child
      simp only [allFinite, Bool.and_eq_true] at h
      rw [exprAs?]
      split
      · exact isFinite_toExpr node h.1
      · exact isFinite_exprAs? role rest h.2

theorem isFinite_firstExpr? (children : List (Role × Node)) (h : allFinite children) :
    (firstExpr? children).all Expr.isFinite := by
  cases children with
  | nil => rfl
  | cons child rest =>
      obtain ⟨r, node⟩ := child
      simp only [allFinite, Bool.and_eq_true] at h
      rw [firstExpr?]
      split
      · exact isFinite_toExpr node h.1
      · exact isFinite_firstExpr? rest h.2

theorem isFinite_exprSlots (filled : Bool) (children : List (Role × Node))
    (h : allFinite children) : Expr.elementsFinite (exprSlots filled children) := by
  cases children with
  | nil => rfl
  | cons child rest =>
      obtain ⟨r, node⟩ := child
      simp only [allFinite, Bool.and_eq_true] at h
      rw [exprSlots]
      split
      · simp [Expr.elementsFinite, isFinite_toExpr node h.1, isFinite_exprSlots true rest h.2]
      · split
        · cases filled <;> exact isFinite_exprSlots false rest h.2
        · exact isFinite_exprSlots filled rest h.2

theorem isFinite_properties (children : List (Role × Node)) (h : allFinite children) :
    Expr.propertiesFinite (properties children) := by
  match children with
  | [] => rfl
  | (_, .leaf kind text) :: rest =>
      simp only [allFinite, Bool.and_eq_true] at h
      have hrest := isFinite_properties rest h.2
      rw [properties]
      split
      · simpa [Expr.propertiesFinite, Expr.isFinite] using hrest
      · exact hrest
  | (_, .branch kind children) :: rest =>
      simp only [allFinite, isFinite, Bool.and_eq_true] at h
      have hrest := isFinite_properties rest h.2
      have hvalue := isFinite_exprAs? .value children h.1
      rw [properties.eq_def]
      simp only
      split
      · split
        · next _ value _ hv => simp_all [Expr.propertiesFinite]
        · exact hrest
      · split
        · simpa [Expr.propertiesFinite, Expr.isFinite] using hrest
        · exact hrest
      · exact hrest

theorem isFinite_formalParams (children : List (Role × Node)) (h : allFinite children) :
    Pattern.allFinite (formalParams children) := by
  match children with
  | [] => rfl
  | (role, .leaf kind text) :: rest =>
      simp only [allFinite, Bool.and_eq_true] at h
      rw [formalParams]
      split
      · rfl
      · exact isFinite_formalParams rest h.2
  | (role, .branch kind children) :: rest =>
      simp only [allFinite, isFinite, Bool.and_eq_true] at h
      rw [formalParams]
      split
      · exact isFinite_params children h.1
      · exact isFinite_formalParams rest h.2

theorem isFinite_params (children : List (Role × Node)) (h : allFinite children) :
    Pattern.allFinite (params children) := by
  match children with
  | [] => rfl
  | (_, .leaf kind text) :: rest =>
      simp only [allFinite, Bool.and_eq_true] at h
      have hrest := isFinite_params rest h.2
      rw [params]
      split
      · simp [Pattern.allFinite, isFinite_toPattern_leaf, hrest]
      · exact hrest
  | (_, .branch kind children) :: rest =>
      simp only [allFinite, Bool.and_eq_true] at h
      have hrest := isFinite_params rest h.2
      have hself := isFinite_toPattern (.branch kind children) h.1
      have htarget := isFinite_patternAs? .pattern children h.1
      have hvalue := isFinite_exprAs? .value children h.1
      rw [params.eq_def]
      simp only
      split
      iterate 2
        · split
          · simp_all [Pattern.allFinite, Pattern.isFinite]
          · simp_all [Pattern.allFinite]
          · simpa [Pattern.allFinite, Pattern.isFinite] using hrest
      · simp [Pattern.allFinite, hself, hrest]

theorem isFinite_toPattern (node : Node) (h : node.isFinite) : node.toPattern.isFinite := by
  cases node with
  | leaf kind text => exact isFinite_toPattern_leaf
  | branch kind children =>
      rw [isFinite] at h
      have hleft := isFinite_patternAs? .left children h
      have hright := isFinite_exprAs? .right children h
      rw [toPattern.eq_def]
      simp only
      split
      iterate 2
        · split
          · simp_all [Pattern.isFinite]
          · rfl
      · exact isFinite_propertyPatterns children h
      · exact isFinite_patternSlots false children h
      · have hfirst := isFinite_firstPattern? children h
        cases hp : firstPattern? children with
        | none => rfl
        | some p => simpa [hp, Pattern.isFinite] using hfirst
      · rfl

theorem isFinite_patternAs? (role : Role) (children : List (Role × Node))
    (h : allFinite children) : (patternAs? role children).all Pattern.isFinite := by
  cases children with
  | nil => rfl
  | cons child rest =>
      obtain ⟨r, node⟩ := child
      simp only [allFinite, Bool.and_eq_true] at h
      rw [patternAs?]
      split
      · exact isFinite_toPattern node h.1
      · exact isFinite_patternAs? role rest h.2

theorem isFinite_firstPattern? (children : List (Role × Node)) (h : allFinite children) :
    (firstPattern? children).all Pattern.isFinite := by
  cases children with
  | nil => rfl
  | cons child rest =>
      obtain ⟨r, node⟩ := child
      simp only [allFinite, Bool.and_eq_true] at h
      rw [firstPattern?]
      split
      · exact isFinite_toPattern node h.1
      · exact isFinite_firstPattern? rest h.2

theorem isFinite_patternSlots (filled : Bool) (children : List (Role × Node))
    (h : allFinite children) : Pattern.elementsFinite (patternSlots filled children) := by
  cases children with
  | nil => rfl
  | cons child rest =>
      obtain ⟨r, node⟩ := child
      simp only [allFinite, Bool.and_eq_true] at h
      rw [patternSlots]
      split
      · simp [Pattern.elementsFinite, isFinite_toPattern node h.1,
          isFinite_patternSlots true rest h.2]
      · split
        · cases filled <;> exact isFinite_patternSlots false rest h.2
        · exact isFinite_patternSlots filled rest h.2

theorem isFinite_propertyPatterns (children : List (Role × Node)) (h : allFinite children) :
    PropertyPattern.allFinite (propertyPatterns children) := by
  match children with
  | [] => rfl
  | (_, .leaf kind text) :: rest =>
      simp only [allFinite, Bool.and_eq_true] at h
      have hrest := isFinite_propertyPatterns rest h.2
      rw [propertyPatterns]
      split
      · simpa [PropertyPattern.allFinite, PropertyPattern.isFinite, Pattern.isFinite] using hrest
      · split
        · simpa [PropertyPattern.allFinite, PropertyPattern.isFinite, Pattern.isFinite] using hrest
        · exact hrest
  | (_, .branch kind children) :: rest =>
      simp only [allFinite, Bool.and_eq_true] at h
      have hrest := isFinite_propertyPatterns rest h.2
      have hself := isFinite_toPattern (.branch kind children) h.1
      have hvalue := isFinite_patternAs? .value children h.1
      have hfirst := isFinite_firstPattern? children h.1
      rw [propertyPatterns.eq_def]
      simp only
      split
      · simp [PropertyPattern.allFinite, PropertyPattern.isFinite, hself, hrest]
      · cases hp : patternAs? .value children <;>
          simp_all [PropertyPattern.allFinite, PropertyPattern.isFinite, Pattern.isFinite]
      · cases hp : firstPattern? children <;>
          simp_all [PropertyPattern.allFinite, PropertyPattern.isFinite, Pattern.isFinite]
      · simpa [PropertyPattern.allFinite, PropertyPattern.isFinite, Pattern.isFinite] using hrest

end

theorem isFinite_of_find? {p : Role × Node → Bool} {child : Role × Node} (h : allFinite children)
    (hfound : children.find? p = some child) : child.2.isFinite := by
  induction children with
  | nil => contradiction
  | cons first rest ih =>
      simp only [allFinite, Bool.and_eq_true] at h
      rw [List.find?_cons] at hfound
      split at hfound
      · injection hfound with hfound
        exact hfound ▸ h.1
      · exact ih h.2 hfound

theorem allFinite_children (node : Node) (h : node.isFinite) : allFinite node.children := by
  cases node with
  | leaf kind text => rfl
  | branch kind children => exact h

theorem isFinite_functionParams (h : allFinite children) :
    Pattern.allFinite (functionParams children) := by
  have hparameter := isFinite_patternAs? .parameter children h
  rw [functionParams]
  cases hp : patternAs? .parameter children with
  | none => exact isFinite_formalParams children h
  | some p => simpa [hp, Pattern.allFinite] using hparameter

theorem isFinite_initializer? (h : allFinite children) :
    (initializer? children).all Expr.isFinite := by
  rw [initializer?]
  split
  · next declarator hfound =>
      have hdeclarator := isFinite_of_find? h hfound
      exact isFinite_exprAs? .value _ (allFinite_children declarator hdeclarator)
  · rfl

theorem isFinite_toStatement (node : Node) (h : node.isFinite) : node.toStatement.isFinite := by
  have hchildren := allFinite_children node h
  unfold toStatement
  split
  iterate 2 exact isFinite_functionParams hchildren
  iterate 2 exact isFinite_initializer? hchildren
  · have hfirst := isFinite_firstExpr? node.children hchildren
    cases he : firstExpr? node.children with
    | none => rfl
    | some e => simpa [he, Statement.isFinite] using hfirst
  · rfl

/-- The numbers of a statement are those that numeric literals of its source denote. -/
theorem isFinite_firstStatement? {program : Node} {s : Statement} (h : program.isFinite)
    (hs : program.firstStatement? = some s) : s.isFinite := by
  obtain ⟨child, hfound, rfl⟩ := Option.map_eq_some_iff.mp hs
  exact isFinite_toStatement _ (isFinite_of_find? (allFinite_children program h) hfound)

end Node

/-! ### Statements read back -/

/-- A statement that is not nested too deep is read back from its text if all its numbers are
finite; otherwise nothing is read back. All numbers are finite if those of its program are. So the
statement of a source, if it is read back, declares what the source declares. -/
theorem statement_ofText {s : Statement} (hdepth : s.toJson.depth ≤ Json.maxDepth) :
    Statement.ofText s.toJson.compact = (if s.isFinite then .ok s else .error .shapeFault) ∧
      (∀ program : Node, program.firstStatement? = some s → program.isFinite → s.isFinite) ∧
      ∀ source, statement source = .ok (some s) →
        (s.isFinite → ∃ read, Statement.ofText s.toJson.compact = .ok read ∧
            declared source = .ok read.declared?) ∧
          (s.isFinite = false → Statement.ofText s.toJson.compact = .error .shapeFault) ∧
          ∀ program, Node.ofSource? source = some program → program.isFinite → s.isFinite := by
  have hread := Statement.ofText_of_wideText (Json.wideText_compact (Json.widensTo_self _) hdepth)
  refine ⟨hread, fun program hs hfinite => Node.isFinite_firstStatement? hfinite hs, ?_⟩
  intro source h
  refine ⟨fun hfinite => ⟨s, ?_, ?_⟩, fun hinfinite => ?_, fun program hprogram hfinite => ?_⟩
  · rw [hread, if_pos hfinite]
  · rw [declared, h]
    rfl
  · rw [hread, if_neg (by simp [hinfinite])]
  · rw [statement_of_ofSource? hprogram] at h
    exact Node.isFinite_firstStatement? hfinite (Except.ok.inj h)

/-- A statement of a source, known by what is asked about it. -/
theorem exists_statement {α : Type} {source : String} {f : Statement → α} {a : α}
    (h : (statement source).map (Option.map f) = .ok (some a)) :
    ∃ s, statement source = .ok (some s) ∧ f s = a := by
  match hs : statement source with
  | .error e => simp [hs, Except.map] at h
  | .ok none => simp [hs, Except.map] at h
  | .ok (some s) => exact ⟨s, rfl, by simpa [hs, Except.map] using h⟩

/-- The default of a parameter, written with an exponent, is read back. -/
theorem statement_ofText_exponent :
    ∃ s, statement "function f(a = 2e3) \x7b\x7d" = .ok (some s) ∧
      s.toJson.depth ≤ Json.maxDepth ∧ s.isFinite ∧
      ∃ read, Statement.ofText s.toJson.compact = .ok read ∧
        declared "function f(a = 2e3) \x7b\x7d" = .ok read.declared? := by
  have hshape : (statement "function f(a = 2e3) \x7b\x7d").map
      (Option.map fun s => (s.toJson.depth, s.isFinite)) = .ok (some (4, true)) := by
    decide +kernel
  obtain ⟨s, hs, hs'⟩ := exists_statement hshape
  obtain ⟨hdepth, hfinite⟩ := Prod.mk.inj hs'
  have hdepth : s.toJson.depth ≤ Json.maxDepth := hdepth.trans_le (by decide)
  exact ⟨s, hs, hdepth, hfinite, ((statement_ofText hdepth).2.2 _ hs).1 hfinite⟩

/-- A decimal that is too large is infinite in what the source declares, but `null` in the text of
its statement, from which nothing is read back. -/
theorem statement_not_read_back :
    ∃ s, statement "const o = \x7ba: 1e400\x7d" = .ok (some s) ∧
      s.toJson.depth ≤ Json.maxDepth ∧
      declared "const o = \x7ba: 1e400\x7d" =
        .ok (some (.object [("a", .number (.infinite false))])) ∧
      Statement.ofText s.toJson.compact = .error .shapeFault := by
  have hshape : (statement "const o = \x7ba: 1e400\x7d").map
      (Option.map fun s => (s.toJson.depth, s.isFinite)) = .ok (some (5, false)) := by
    decide +kernel
  obtain ⟨s, hs, hs'⟩ := exists_statement hshape
  obtain ⟨hdepth, hinfinite⟩ := Prod.mk.inj hs'
  have hdepth : s.toJson.depth ≤ Json.maxDepth := hdepth.trans_le (by decide)
  refine ⟨s, hs, hdepth, by decide +kernel, ?_⟩
  rw [Statement.ofText_of_wideText (Json.wideText_compact (Json.widensTo_self _) hdepth), hinfinite]
  rfl

end SnippetBridge.TypeScript
