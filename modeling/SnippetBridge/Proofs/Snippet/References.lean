import SnippetBridge.Proofs.Snippet.Declared
import SnippetBridge.Proofs.Value.Decidable
import SnippetBridge.Snippet.Reader

/-!
Which references a snippet declares. They are the chains of members of which every link is a name,
with the names as they stand in the snippet. The names are not looked at, so a reference of a
snippet can have a path that is not well formed: a name of a source may be written with escapes or
have combining marks in it, and a name of a tree may be any text.
-/

namespace SnippetBridge

/-- A chain has a root and at least one member. -/
theorem Expr.Refers.two_le_length {expr : Expr} {names : List String} (h : expr.Refers names) :
    2 ≤ names.length := by
  induction h with
  | @chain target property names hnames =>
      cases property with
      | none => cases hnames
      | some property =>
          obtain ⟨front, hfront, rfl⟩ := Option.map_eq_some_iff.mp hnames
          have hlength := List.length_pos_of_ne_nil (Expr.names?_ne_nil hfront)
          simp only [List.length_append, List.length_singleton]
          omega
  | element _ _ ih => exact ih
  | property _ _ ih => exact ih

theorem Pattern.Refers.two_le_length {pattern : Pattern} {names : List String}
    (h : pattern.Refers names) : 2 ≤ names.length := by
  induction h with
  | default h => exact h.two_le_length
  | target _ ih => exact ih
  | property _ _ ih => exact ih
  | element _ _ ih => exact ih

theorem Expr.Declares.two_le_length {expr : Expr} {names : List String} (h : expr.Declares names) :
    2 ≤ names.length := by
  cases expr with
  | function params =>
      obtain ⟨param, -, hparam⟩ := h
      exact hparam.two_le_length
  | _ => exact Expr.Refers.two_le_length h

theorem Statement.Declares.two_le_length {statement : Statement} {names : List String}
    (h : statement.Declares names) : 2 ≤ names.length := by
  match statement with
  | .function params =>
      obtain ⟨param, -, hparam⟩ := h
      exact hparam.two_le_length
  | .variable init =>
      obtain ⟨expr, -, hexpr⟩ := h
      exact hexpr.two_le_length
  | .expression expr => exact Expr.Declares.two_le_length h

theorem Expr.value_of_names?_eq_none {target : Expr} {property : Option String}
    (h : (Expr.member target property).names? = none) :
    (Expr.member target property).value = .null := by
  rw [Expr.value, Expr.path?_eq_map_names?, h]
  rfl

/-- A reference can be made of joined names exactly when one can be made of each of them. -/
theorem Value.reference?_intercalate {names : List String} (h : names ≠ []) :
    (∃ v, reference? (".".intercalate names) = .ok v) ↔
      ∀ name ∈ names, ∃ v, reference? name = .ok v := by
  simp only [reference?_eq_ok_iff, exists_and_left, exists_eq, and_true,
    ← DottedPath.isWellFormed_iff, DottedPath.isWellFormed_intercalate h, List.all_eq_true]

/-- At any depth, the references in what a statement declares are the two or more names of a chain
of the statement, with dots between them. Whether a path is accepted is up to these names alone; all
are, if every name of a chain is. A chain with a link that is no name is `null`. -/
theorem declared_references {statement : Statement} {value : Value}
    (h : statement.declared? = some value) :
    (value.EveryReference fun path =>
        ∃ names, statement.Declares names ∧ 2 ≤ names.length ∧ path = ".".intercalate names ∧
          ((∃ v, Value.reference? path = .ok v) ↔
            ∀ name ∈ names, ∃ v, Value.reference? name = .ok v)) ∧
      ((∀ names, statement.Declares names → ∀ name ∈ names, ∃ v, Value.reference? name = .ok v) →
        value.EveryReference fun path => ∃ v, Value.reference? path = .ok v) ∧
      ∀ target property, (Expr.member target property).names? = none →
        (Expr.member target property).value = .null := by
  have haccepted (names) (hnames : statement.Declares names) :
      (∃ v, Value.reference? (".".intercalate names) = .ok v) ↔
        ∀ name ∈ names, ∃ v, Value.reference? name = .ok v := by
    have hlength := hnames.two_le_length
    exact Value.reference?_intercalate (List.ne_nil_of_length_pos (by omega))
  refine ⟨(Statement.sound_declared h fun names hnames => ?_).references, fun hall => ?_,
    fun _ _ => Expr.value_of_names?_eq_none⟩
  · exact ⟨names, hnames, hnames.two_le_length, rfl, haccepted names hnames⟩
  · exact (Statement.sound_declared h fun names hnames =>
      (haccepted names hnames).mpr (hall names hnames)).references

/-- The default `app.plugin.id` of a parameter, beside a chain through a call. -/
theorem declared_references_parameter :
    Value.EveryReference
      (fun path => ∃ names,
        Statement.Declares (.function [.assignment (.identifier "a")
          (.array [some (.member (.member (.identifier "app") "plugin") "id"),
            some (.member (.other "call_expression") "id")])]) names ∧
          2 ≤ names.length ∧ path = ".".intercalate names ∧
          ((∃ v, Value.reference? path = .ok v) ↔
            ∀ name ∈ names, ∃ v, Value.reference? name = .ok v))
      (.object [("a", .array [.reference "app.plugin.id", .null])]) := by
  have h : (Statement.function [.assignment (.identifier "a")
      (.array [some (.member (.member (.identifier "app") "plugin") "id"),
        some (.member (.other "call_expression") "id")])]).declared? =
      some (.object [("a", .array [.reference "app.plugin.id", .null])]) := by decide +kernel
  exact (declared_references h).1

/-- Not every reference that is declared would be accepted: not one with a name that a source writes
with an escape, nor one with a name that has blanks and brackets in it. -/
theorem declared_reference_refused :
    (TypeScript.declared "const x = \x7ba: \\u0061.b\x7d" =
        .ok (some (.object [("a", .reference "\\u0061.b")])) ∧
      Value.reference? "\\u0061.b" = .error (.invalidPath "\\u0061.b")) ∧
    (Statement.expression (.object [("a", .member (.identifier "1; x()") "b")])).declared? =
        some (.object [("a", .reference "1; x().b")]) ∧
      Value.reference? "1; x().b" = .error (.invalidPath "1; x().b") := by
  refine ⟨⟨by decide +kernel, ?_⟩, by decide +kernel, ?_⟩
  all_goals
    apply Value.reference?_of_not_joinsNames
    rw [← DottedPath.isWellFormed_iff]
    decide +kernel

end SnippetBridge
