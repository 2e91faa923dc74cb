import SnippetBridge.Proofs.Snippet.Declared
import SnippetBridge.Proofs.Value.Merge

/-!
What parameter lists declare. Parameters that are names, with defaults or without, declare what an
object literal with the same names and defaults declares. A parameter list can be cut in two: its
parts declare objects that are merged, if the second part goes on with the numbers of patterns that
are not understood.
-/

namespace SnippetBridge

/-! ### Names and their defaults -/

/-- A name that is declared with a default or without. Where an object literal declares it without
a default, there must be an expression that is `null`; it is one of some kind of `node`. -/
structure Field where
  name : String
  default? : Option Expr
  node : String

namespace Field

def parameter (field : Field) : Pattern :=
  match field.default? with
  | some right => .assignment (.identifier field.name) right
  | none => .identifier field.name

def property (field : Field) : String × Expr := (field.name, field.default?.getD (.other field.node))

/-- The entry for a field in what is declared. -/
def entry (field : Field) : String × Value := (field.name, field.default?.elim .null Expr.value)

theorem bindings_parameter (field : Field) :
    field.parameter.bindings = [.named field.entry.1 field.entry.2] := by
  obtain ⟨name, default?, node⟩ := field
  cases default? <;> rfl

theorem entriesFrom_parameters (seen : Nat) (fields : List Field) :
    Binding.entriesFrom seen ((fields.map parameter).flatMap Pattern.bindings) =
      fields.map entry := by
  induction fields with
  | nil => rfl
  | cons field rest ih =>
      rw [List.map_cons, List.flatMap_cons, bindings_parameter, List.singleton_append,
        Binding.entriesFrom, ih, List.map_cons]

theorem propertyValues_properties (fields : List Field) :
    Expr.propertyValues (fields.map property) = fields.map entry := by
  induction fields with
  | nil => rfl
  | cons field rest ih =>
      have hvalue : field.property.2.value = field.entry.2 := by
        obtain ⟨name, default?, node⟩ := field
        cases default? <;> rfl
      rw [List.map_cons, List.map_cons, ← ih]
      exact congrArg (fun v => (field.name, v) :: _) hvalue

theorem describe_parameters (fields : List Field) :
    Pattern.describe (fields.map parameter) = .ofEntries (fields.map entry) := by
  rw [Pattern.describe, Pattern.describeFrom, entriesFrom_parameters]

theorem value_properties (fields : List Field) :
    (Expr.object (fields.map property)).value = .ofEntries (fields.map entry) := by
  rw [Expr.value, propertyValues_properties]

end Field

/-- A function and an object literal with the same names and defaults declare the same object,
whatever kind of statement they stand in: each name at its first place and with its last default,
or `null` if it has none there. -/
theorem declared_fields (fields : List Field) :
    let params := fields.map Field.parameter
    let properties := fields.map Field.property
    let declared := some (Value.ofEntries (fields.map Field.entry))
    (Statement.function params).declared? = declared ∧
      (Statement.variable (some (.function params))).declared? = declared ∧
      (Statement.expression (.function params)).declared? = declared ∧
      (Statement.variable (some (.object properties))).declared? = declared ∧
      (Statement.expression (.object properties)).declared? = declared := by
  intro params properties declared
  have hfunction : some (Pattern.describe params) = declared :=
    congrArg some (Field.describe_parameters fields)
  have hobject : some (Expr.object properties).value = declared :=
    congrArg some (Field.value_properties fields)
  exact ⟨hfunction, hfunction, hfunction, hobject, hobject⟩

/-! ### Parameter lists in two parts -/

def Binding.isUnknown : Binding → Bool
  | .named _ _ => false
  | .unknown => true

/-- Entries of a list in two parts: the second part goes on with the numbers. -/
theorem Binding.entriesFrom_append (seen : Nat) (xs ys : List Binding) :
    entriesFrom seen (xs ++ ys) =
      entriesFrom seen xs ++ entriesFrom (seen + xs.countP isUnknown) ys := by
  induction xs generalizing seen with
  | nil => rfl
  | cons x xs ih =>
      cases x with
      | named key value =>
          rw [List.cons_append, entriesFrom, entriesFrom, ih, List.cons_append,
            List.countP_cons_of_neg (by simp [isUnknown])]
      | unknown =>
          rw [List.cons_append, entriesFrom, entriesFrom, ih, List.cons_append,
            List.countP_cons_of_pos rfl, Nat.add_right_comm, Nat.add_assoc]

namespace Pattern

/-- How many patterns the argument of a rest element adds that are not understood: it can only be a
name. -/
def restUnknowns : Pattern → Nat
  | .identifier _ => 0
  | _ => 1

mutual

/-- How many patterns there are in a pattern, at any depth, that are not understood. -/
def unknowns : Pattern → Nat
  | .identifier _ => 0
  | .assignment left _ => unknowns left
  | .object properties => propertyUnknowns properties
  | .array elements => elementUnknowns elements
  | .rest argument => restUnknowns argument
  | .unsupported _ => 1

def propertyUnknowns : List PropertyPattern → Nat
  | [] => 0
  | .rest argument :: tail => restUnknowns argument + propertyUnknowns tail
  | .property _ value :: tail => unknowns value + propertyUnknowns tail

def elementUnknowns : List (Option Pattern) → Nat
  | [] => 0
  | none :: tail => elementUnknowns tail
  | some element :: tail => unknowns element + elementUnknowns tail

end

/-- How many patterns there are in a parameter list, at any depth, that are not understood. -/
def paramUnknowns : List Pattern → Nat
  | [] => 0
  | param :: tail => unknowns param + paramUnknowns tail

theorem paramUnknowns_eq_zero {params : List Pattern} (h : ∀ p ∈ params, p.unknowns = 0) :
    paramUnknowns params = 0 := by
  induction params with
  | nil => rfl
  | cons param tail ih =>
      obtain ⟨hparam, htail⟩ := List.forall_mem_cons.mp h
      rw [paramUnknowns, hparam, ih htail]

theorem countP_restBinding (argument : Pattern) :
    [restBinding argument].countP Binding.isUnknown = restUnknowns argument := by
  cases argument <;> rfl

mutual

/-- Every pattern that is not understood gives one binding without a name. -/
theorem countP_bindings (pattern : Pattern) :
    (bindings pattern).countP Binding.isUnknown = unknowns pattern := by
  cases pattern with
  | identifier name => rfl
  | assignment left right =>
      rw [bindings_assignment, unknowns, ← countP_bindings left]
      split <;> rfl
  | object properties => exact countP_propertyBindings properties
  | array elements => exact countP_elementBindings elements
  | rest argument => exact countP_restBinding argument
  | unsupported node => rfl

theorem countP_propertyBindings (properties : List PropertyPattern) :
    (propertyBindings properties).countP Binding.isUnknown = propertyUnknowns properties := by
  cases properties with
  | nil => rfl
  | cons property tail =>
      have htail := countP_propertyBindings tail
      cases property with
      | rest argument =>
          rw [propertyBindings, propertyUnknowns, ← List.singleton_append, List.countP_append,
            countP_restBinding, htail]
      | property key value =>
          rw [propertyBindings_property, propertyUnknowns, ← htail, ← countP_bindings value]
          split
          · simp [bindings, Binding.isUnknown]
          · rw [List.countP_append]

theorem countP_elementBindings (elements : List (Option Pattern)) :
    (elementBindings elements).countP Binding.isUnknown = elementUnknowns elements := by
  cases elements with
  | nil => rfl
  | cons element tail =>
      have htail := countP_elementBindings tail
      cases element with
      | none => exact htail
      | some element =>
          rw [elementBindings, elementUnknowns, List.countP_append, countP_bindings element, htail]

end

theorem countP_flatMap_bindings (params : List Pattern) :
    (params.flatMap bindings).countP Binding.isUnknown = paramUnknowns params := by
  induction params with
  | nil => rfl
  | cons param tail ih =>
      rw [List.flatMap_cons, List.countP_append, countP_bindings, ih, paramUnknowns]

end Pattern

/-- What a parameter list declares is what its first part declares, merged with what its second
part declares when this goes on with the numbers of patterns that are not understood. If the first
part has none of these at any depth, the second part is described on its own. -/
theorem Pattern.describe_append (ps qs : List Pattern) :
    describe (ps ++ qs) = (describe ps).merge (describeFrom (paramUnknowns ps) qs) ∧
      ((∀ p ∈ ps, p.unknowns = 0) → describe (ps ++ qs) = (describe ps).merge (describe qs)) := by
  have hmerge :
      describe (ps ++ qs) = (describe ps).merge (describeFrom (paramUnknowns ps) qs) := by
    rw [describe, describe, describeFrom, describeFrom, describeFrom, List.flatMap_append,
      Binding.entriesFrom_append, countP_flatMap_bindings, Nat.zero_add, Value.ofEntries_append]
  refine ⟨hmerge, fun hnone => ?_⟩
  rw [hmerge, paramUnknowns_eq_zero hnone]
  rfl

/-- A key and a number that are given twice, with unknown patterns at some depth in both parts. -/
theorem Pattern.describe_append_repeated :
    describe ([.identifier "a", .array [some (.unsupported "this")]] ++
        [.rest (.array []), .assignment (.identifier "a") (.literal (.bool true))]) =
      (Value.object [("a", .null), ("[unknown]", .unknown)]).merge
        (.object [("[unknown:2]", .unknown), ("a", .bool true)]) ∧
    describe ([.identifier "a"] ++ [.unsupported "this", .identifier "a"]) =
      (Value.object [("a", .null)]).merge (.object [("[unknown]", .unknown), ("a", .null)]) := by
  have hunknown := (describe_append [.identifier "a", .array [some (.unsupported "this")]]
    [.rest (.array []), .assignment (.identifier "a") (.literal (.bool true))]).1
  have hknown := (describe_append [.identifier "a"] [.unsupported "this", .identifier "a"]).2
    (by simp [unknowns])
  constructor
  · rw [hunknown]
    decide +kernel
  · rw [hknown]
    decide +kernel

end SnippetBridge
