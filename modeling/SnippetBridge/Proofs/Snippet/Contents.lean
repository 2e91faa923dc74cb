import SnippetBridge.Proofs.Snippet.References
import SnippetBridge.Proofs.Snippet.Variables
import SnippetBridge.Proofs.Value.Parts

/-!
What can stand in the value that a snippet declares. The value of an expression is known throughout
and has no numbers but those that are written in the expression, so `unknown` comes from patterns
only and stands at the top. A reference is a chain with at least one member, so that there is a dot
in its path and no lone name is one.
-/

namespace SnippetBridge

mutual

/-- The number literals of an expression, those of the parameters of functions included. -/
def Expr.numbers : Expr → List Binary64
  | .function params => Pattern.paramNumbers params
  | .literal (.number x) => [x]
  | .literal _ => []
  | .identifier _ => []
  | .member target _ => target.numbers
  | .array elements => Expr.elementNumbers elements
  | .object properties => Expr.propertyNumbers properties
  | .other _ => []

def Expr.elementNumbers : List (Option Expr) → List Binary64
  | [] => []
  | none :: rest => Expr.elementNumbers rest
  | some element :: rest => element.numbers ++ Expr.elementNumbers rest

def Expr.propertyNumbers : List (String × Expr) → List Binary64
  | [] => []
  | (_, value) :: rest => value.numbers ++ Expr.propertyNumbers rest

/-- The number literals of a pattern, in its defaults at any depth. -/
def Pattern.numbers : Pattern → List Binary64
  | .identifier _ => []
  | .assignment left right => left.numbers ++ right.numbers
  | .object properties => Pattern.propertyNumbers properties
  | .array elements => Pattern.elementNumbers elements
  | .rest argument => argument.numbers
  | .unsupported _ => []

def Pattern.propertyNumbers : List PropertyPattern → List Binary64
  | [] => []
  | .property _ value :: rest => value.numbers ++ Pattern.propertyNumbers rest
  | .rest argument :: rest => argument.numbers ++ Pattern.propertyNumbers rest

def Pattern.elementNumbers : List (Option Pattern) → List Binary64
  | [] => []
  | none :: rest => Pattern.elementNumbers rest
  | some element :: rest => element.numbers ++ Pattern.elementNumbers rest

def Pattern.paramNumbers : List Pattern → List Binary64
  | [] => []
  | param :: rest => param.numbers ++ Pattern.paramNumbers rest

end

namespace Statement

/-- The number literals of a statement. -/
def numbers : Statement → List Binary64
  | .function params => Pattern.paramNumbers params
  | .variable init => init.elim [] Expr.numbers
  | .expression expr => expr.numbers
  | .unsupported _ => []

/-- A statement is a function, or its initializer or expression is one. -/
def DeclaresFunction : Statement → Prop
  | .function _ => True
  | .variable init => ∃ params, init = some (.function params)
  | .expression expr => ∃ params, expr = .function params
  | .unsupported _ => False

end Statement

/-! ### Values of expressions -/

namespace Value

/-- A value that is known throughout and has no numbers but the given ones. -/
structure DrawnFrom (numbers : List Binary64) (v : Value) : Prop where
  known : ¬Value.unknown.PartOf v
  numbers : ∀ x, (Value.number x).PartOf v → x ∈ numbers

variable {numbers : List Binary64}

theorem drawnFrom_scalar {v : Value} (hitems : v.items? = none) (hentries : v.entries? = none)
    (hknown : v ≠ .unknown) (hnumber : ∀ x, v = .number x → x ∈ numbers) :
    v.DrawnFrom numbers := by
  constructor
  · rw [partOf_scalar_iff hitems hentries]
    exact hknown.symm
  · intro x hpart
    exact hnumber x ((partOf_scalar_iff hitems hentries).mp hpart).symm

theorem drawnFrom_null : Value.null.DrawnFrom numbers :=
  drawnFrom_scalar rfl rfl (by simp) (by simp)

theorem drawnFrom_array {items : List Value} (h : ∀ item ∈ items, item.DrawnFrom numbers) :
    (array items).DrawnFrom numbers := by
  constructor
  · simp only [partOf_array_iff, reduceCtorEq, false_or]
    rintro ⟨item, hitem, hpart⟩
    exact (h item hitem).known hpart
  · simp only [partOf_array_iff, reduceCtorEq, false_or]
    rintro x ⟨item, hitem, hpart⟩
    exact (h item hitem).numbers x hpart

theorem drawnFrom_ofEntries {pairs : List (String × Value)}
    (h : ∀ pair ∈ pairs, pair.2.DrawnFrom numbers) : (ofEntries pairs).DrawnFrom numbers := by
  constructor
  · simp only [ofEntries, partOf_object_iff, reduceCtorEq, false_or]
    rintro ⟨entry, hentry, hpart⟩
    exact (h entry (Entries.mem_of_mem_ofList hentry)).known hpart
  · simp only [ofEntries, partOf_object_iff, reduceCtorEq, false_or]
    rintro x ⟨entry, hentry, hpart⟩
    exact (h entry (Entries.mem_of_mem_ofList hentry)).numbers x hpart

end Value

variable {numbers : List Binary64}

namespace Expr

open Value

mutual

theorem drawnFrom_value (expr : Expr) (h : expr.numbers ⊆ numbers) :
    expr.value.DrawnFrom numbers := by
  cases expr with
  | literal literal =>
      cases literal with
      | bool b => exact drawnFrom_scalar rfl rfl (by simp [value]) (by simp [value])
      | number x =>
          refine drawnFrom_scalar rfl rfl (by simp [value]) fun y hy => ?_
          obtain rfl : x = y := by simpa [value] using hy
          exact h (List.mem_singleton_self x)
      | string s => exact drawnFrom_scalar rfl rfl (by simp [value]) (by simp [value])
  | array elements => exact drawnFrom_array (drawnFrom_elementValues elements h)
  | object properties => exact drawnFrom_ofEntries (drawnFrom_propertyValues properties h)
  | member target property =>
      rw [value]
      split
      · exact drawnFrom_scalar rfl rfl (by simp) (by simp)
      · exact drawnFrom_null
  | identifier name => exact drawnFrom_scalar rfl rfl (by simp [value]) (by simp [value])
  | function params => exact drawnFrom_null
  | other node => exact drawnFrom_null

theorem drawnFrom_elementValues (elements : List (Option Expr))
    (h : elementNumbers elements ⊆ numbers) :
    ∀ item ∈ elementValues elements, item.DrawnFrom numbers := by
  cases elements with
  | nil => simp [elementValues]
  | cons element rest =>
      cases element with
      | none => exact List.forall_mem_cons.mpr ⟨drawnFrom_null, drawnFrom_elementValues rest h⟩
      | some element =>
          obtain ⟨helement, hrest⟩ := List.append_subset.mp h
          exact List.forall_mem_cons.mpr
            ⟨drawnFrom_value element helement, drawnFrom_elementValues rest hrest⟩

theorem drawnFrom_propertyValues (properties : List (String × Expr))
    (h : propertyNumbers properties ⊆ numbers) :
    ∀ entry ∈ propertyValues properties, entry.2.DrawnFrom numbers := by
  cases properties with
  | nil => simp [propertyValues]
  | cons property rest =>
      obtain ⟨hproperty, hrest⟩ := List.append_subset.mp h
      exact List.forall_mem_cons.mpr
        ⟨drawnFrom_value property.2 hproperty, drawnFrom_propertyValues rest hrest⟩

end

end Expr

/-! ### Parameters -/

namespace Pattern

theorem drawnFrom_restBound (argument : Pattern) :
    ∀ v ∈ restBound argument, v.value.DrawnFrom numbers := by
  cases argument with
  | identifier name => exact List.forall_mem_singleton.mpr Value.drawnFrom_null
  | _ => exact List.forall_mem_nil _

mutual

theorem drawnFrom_bound (pattern : Pattern) (h : pattern.numbers ⊆ numbers) :
    ∀ v ∈ bound pattern, v.value.DrawnFrom numbers := by
  cases pattern with
  | identifier name => exact List.forall_mem_singleton.mpr Value.drawnFrom_null
  | assignment left right =>
      obtain ⟨hleft, hright⟩ := List.append_subset.mp h
      rw [bound_assignment]
      split
      · exact List.forall_mem_singleton.mpr (right.drawnFrom_value hright)
      · exact drawnFrom_bound left hleft
  | object properties => exact drawnFrom_propertyBound properties h
  | array elements => exact drawnFrom_elementBound elements h
  | rest argument => exact drawnFrom_restBound argument
  | unsupported node => exact List.forall_mem_nil _

theorem drawnFrom_propertyBound (properties : List PropertyPattern)
    (h : propertyNumbers properties ⊆ numbers) :
    ∀ v ∈ propertyBound properties, v.value.DrawnFrom numbers := by
  cases properties with
  | nil => exact List.forall_mem_nil _
  | cons property tail =>
      cases property with
      | rest argument =>
          exact List.forall_mem_append.mpr ⟨drawnFrom_restBound argument,
            drawnFrom_propertyBound tail (List.append_subset.mp h).2⟩
      | property key value =>
          obtain ⟨hvalue, htail⟩ := List.append_subset.mp h
          rw [propertyBound_property]
          split
          · exact List.forall_mem_cons.mpr
              ⟨Value.drawnFrom_null, drawnFrom_propertyBound tail htail⟩
          · exact List.forall_mem_append.mpr
              ⟨drawnFrom_bound value hvalue, drawnFrom_propertyBound tail htail⟩

theorem drawnFrom_elementBound (elements : List (Option Pattern))
    (h : elementNumbers elements ⊆ numbers) :
    ∀ v ∈ elementBound elements, v.value.DrawnFrom numbers := by
  cases elements with
  | nil => exact List.forall_mem_nil _
  | cons element tail =>
      cases element with
      | none => exact drawnFrom_elementBound tail h
      | some element =>
          obtain ⟨helement, htail⟩ := List.append_subset.mp h
          exact List.forall_mem_append.mpr
            ⟨drawnFrom_bound element helement, drawnFrom_elementBound tail htail⟩

end

theorem drawnFrom_paramBound (params : List Pattern) (h : paramNumbers params ⊆ numbers) :
    ∀ v ∈ paramBound params, v.value.DrawnFrom numbers := by
  induction params with
  | nil => exact List.forall_mem_nil _
  | cons param tail ih =>
      obtain ⟨hparam, htail⟩ := List.append_subset.mp h
      exact List.forall_mem_append.mpr ⟨drawnFrom_bound param hparam, ih htail⟩

/-- An entry of a parameter list is that of a variable, whose value is drawn from the number
literals of the list, or it is that of a pattern that is not understood. -/
theorem mem_describe {params : List Pattern} {entry : String × Value}
    (h : entry ∈ Entries.ofList (Binding.entriesFrom 0 (params.flatMap bindings))) :
    entry.2.DrawnFrom (paramNumbers params) ∨
      ∃ n, 1 ≤ n ∧ entry = (Binding.unknownKeyAt n, .unknown) := by
  have hentry := (entriesFrom_perm_bound params).mem_iff.mp (Entries.mem_of_mem_ofList h)
  rcases List.mem_append.mp hentry with hnamed | hunknown
  · obtain ⟨v, hv, rfl⟩ := List.mem_map.mp hnamed
    exact .inl (drawnFrom_paramBound params (List.Subset.refl _) v hv)
  · obtain ⟨n, hn, rfl⟩ := List.mem_map.mp hunknown
    exact .inr ⟨n, (List.mem_range'_1.mp hn).1, rfl⟩

end Pattern

/-! ### Declared values -/

/-- Names that are joined by dots have a dot between them. -/
theorem dot_mem_intercalate {names : List String} (h : 2 ≤ names.length) :
    '.' ∈ (".".intercalate names).toList := by
  match names with
  | first :: second :: rest =>
      rw [String.intercalate_cons_cons]
      simp

/-- The key of a pattern that is not understood. -/
def IsUnknownKey (key : String) : Prop :=
  key = "[unknown]" ∨ ∃ n, 2 ≤ n ∧ key = "[unknown:" ++ String.ofList (Nat.toDigits 10 n) ++ "]"

theorem isUnknownKey_unknownKeyAt {n : Nat} (h : 1 ≤ n) :
    IsUnknownKey (Binding.unknownKeyAt n) := by
  rw [Binding.unknownKeyAt]
  split
  · exact .inl rfl
  · exact .inr ⟨n, by omega, rfl⟩

theorem Expr.cases_of_declared {expr : Expr} {value : Value} (h : expr.declared? = some value) :
    (∃ params, expr = .function params ∧ value = Pattern.describe params) ∨
      ∃ properties, expr = .object properties ∧ value = (Expr.object properties).value := by
  cases expr with
  | function params => exact .inl ⟨params, rfl, (Option.some.inj h).symm⟩
  | object properties => exact .inr ⟨properties, rfl, (Option.some.inj h).symm⟩
  | _ => cases h

/-- A statement declares parameters, and then it declares a function, or it declares an object
literal. -/
theorem Statement.cases_of_declared {statement : Statement} {value : Value}
    (h : statement.declared? = some value) :
    (statement.DeclaresFunction ∧ ∃ params,
        value = Pattern.describe params ∧ statement.numbers = Pattern.paramNumbers params) ∨
      ∃ properties, value = (Expr.object properties).value ∧
        statement.numbers = Expr.propertyNumbers properties := by
  match statement with
  | .function params => exact .inl ⟨trivial, params, (Option.some.inj h).symm, rfl⟩
  | .variable init =>
      obtain ⟨expr, rfl, hexpr⟩ := Option.bind_eq_some_iff.mp h
      rcases Expr.cases_of_declared hexpr with ⟨params, rfl, rfl⟩ | ⟨properties, rfl, rfl⟩
      · exact .inl ⟨⟨params, rfl⟩, params, rfl, rfl⟩
      · exact .inr ⟨properties, rfl, rfl⟩
  | .expression expr =>
      rcases Expr.cases_of_declared h with ⟨params, rfl, rfl⟩ | ⟨properties, rfl, rfl⟩
      · exact .inl ⟨⟨params, rfl⟩, params, rfl, rfl⟩
      · exact .inr ⟨properties, rfl, rfl⟩
  | .unsupported node => cases h

theorem Pattern.numbers_describe (params : List Pattern) (x : Binary64)
    (h : (Value.number x).PartOf (describe params)) : x ∈ paramNumbers params := by
  simp only [describe, describeFrom, Value.ofEntries, Value.partOf_object_iff, reduceCtorEq,
    false_or] at h
  obtain ⟨entry, hentry, hpart⟩ := h
  rcases mem_describe hentry with hdrawn | ⟨n, -, rfl⟩
  · exact hdrawn.numbers x hpart
  · cases hpart

/-- What a statement declares is an object. There is nothing unknown in it but the values of entries
of its own, under the keys of patterns that are not understood, and only if the statement declares a
function. At any depth, the path of a reference has a dot in it, and a number is one of the number
literals of the statement. -/
theorem declared_contents {statement : Statement} {value : Value}
    (h : statement.declared? = some value) :
    (∃ entries, value = .object entries ∧
      ∀ entry ∈ entries, Value.unknown.PartOf entry.2 →
        entry.2 = .unknown ∧ IsUnknownKey entry.1 ∧ statement.DeclaresFunction) ∧
      (∀ path, (Value.reference path).PartOf value → '.' ∈ path.toList) ∧
      ∀ x, (Value.number x).PartOf value → x ∈ statement.numbers := by
  have hreferences : value.EveryReference ('.' ∈ ·.toList) :=
    (Statement.sound_declared h fun names hnames =>
      dot_mem_intercalate hnames.two_le_length).references
  have hdots := (Value.everyReference_iff value).mp hreferences
  rcases Statement.cases_of_declared h with
    ⟨hfunction, params, rfl, hnumbers⟩ | ⟨properties, rfl, hnumbers⟩
  · refine ⟨⟨_, rfl, fun entry hentry hunknown => ?_⟩, hdots, ?_⟩
    · rcases Pattern.mem_describe hentry with hdrawn | ⟨n, hn, rfl⟩
      · exact absurd hunknown hdrawn.known
      · exact ⟨rfl, isUnknownKey_unknownKeyAt hn, hfunction⟩
    · rw [hnumbers]
      exact Pattern.numbers_describe params
  · have hdrawn := (Expr.object properties).drawnFrom_value (List.Subset.refl _)
    refine ⟨⟨_, rfl, fun entry hentry hunknown => ?_⟩, hdots, ?_⟩
    · exact absurd (.entry hentry hunknown) hdrawn.known
    · rw [hnumbers]
      exact hdrawn.numbers

/-- A number in the default of a nested pattern, a lone name and a chain, between two patterns that
are not understood. -/
theorem declared_contents_nested :
    let statement : Statement := .variable (some (.function
      [.unsupported "this",
        .object [.property "a" (.assignment (.identifier "a")
          (.array [some (.number (.ofNat 2)), none, some (.ofPath "p.q"), some (.identifier "r")]))],
        .rest (.array [])]))
    let entries : List (String × Value) :=
      [("[unknown]", .unknown),
        ("a", .array [.number (.ofNat 2), .null, .reference "p.q", .string "r"]),
        ("[unknown:2]", .unknown)]
    statement.declared? = some (.object entries) ∧
      (∀ entry ∈ entries, Value.unknown.PartOf entry.2 →
        entry.2 = .unknown ∧ IsUnknownKey entry.1 ∧ statement.DeclaresFunction) ∧
      (∀ path, (Value.reference path).PartOf (.object entries) → '.' ∈ path.toList) ∧
      ∀ x, (Value.number x).PartOf (.object entries) → x ∈ statement.numbers := by
  intro statement entries
  have h : statement.declared? = some (.object entries) := by decide +kernel
  obtain ⟨⟨_, hobject, hunknown⟩, hdots, hnumbers⟩ := declared_contents h
  obtain rfl := Value.object.inj hobject
  exact ⟨h, hunknown, hdots, hnumbers⟩

end SnippetBridge
