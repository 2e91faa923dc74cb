import SnippetBridge.Proofs.Snippet.Variables

/-!
What defaults add to a parameter list. Without them every binding stays in its place, and `null`
stands where a default was. It also keeps its key, but for one kind of property: one that is bound
to a variable counts by its own key, and by the name of the variable if that has a default.
-/

namespace SnippetBridge

namespace Pattern

/-! ### Leaving out defaults -/

mutual

/-- The pattern with every default left out, at any depth. -/
def withoutDefaults : Pattern → Pattern
  | .identifier name => .identifier name
  | .assignment left _ => withoutDefaults left
  | .object properties => .object (propertiesWithoutDefaults properties)
  | .array elements => .array (elementsWithoutDefaults elements)
  | .rest argument => .rest (withoutDefaults argument)
  | .unsupported node => .unsupported node

def propertiesWithoutDefaults : List PropertyPattern → List PropertyPattern
  | [] => []
  | .rest argument :: tail => .rest (withoutDefaults argument) :: propertiesWithoutDefaults tail
  | .property key value :: tail =>
    .property key (withoutDefaults value) :: propertiesWithoutDefaults tail

def elementsWithoutDefaults : List (Option Pattern) → List (Option Pattern)
  | [] => []
  | none :: tail => none :: elementsWithoutDefaults tail
  | some element :: tail => some (withoutDefaults element) :: elementsWithoutDefaults tail

end

def isAssignment : Pattern → Bool
  | .assignment _ _ => true
  | _ => false

mutual

/-- Whether defaults stand only where the grammar has them: what has a default is no default itself,
and neither is what a rest element binds. -/
def isGrammatical : Pattern → Bool
  | .identifier _ => true
  | .assignment left _ => !left.isAssignment && isGrammatical left
  | .object properties => arePropertiesGrammatical properties
  | .array elements => areElementsGrammatical elements
  | .rest argument => !argument.isAssignment
  | .unsupported _ => true

def arePropertiesGrammatical : List PropertyPattern → Bool
  | [] => true
  | .rest argument :: tail => !argument.isAssignment && arePropertiesGrammatical tail
  | .property _ value :: tail => isGrammatical value && arePropertiesGrammatical tail

def areElementsGrammatical : List (Option Pattern) → Bool
  | [] => true
  | none :: tail => areElementsGrammatical tail
  | some element :: tail => isGrammatical element && areElementsGrammatical tail

end

/-- A property with this key stands in the pattern, bound to this variable with this default. -/
inductive BindsDefault (key name : String) (default : Expr) : Pattern → Prop
  | here {properties : List PropertyPattern}
      (hmem : .property key (.assignment (.identifier name) default) ∈ properties) :
      BindsDefault key name default (.object properties)
  | property {properties : List PropertyPattern} {other : String} {value : Pattern}
      (hmem : .property other value ∈ properties) (h : BindsDefault key name default value) :
      BindsDefault key name default (.object properties)
  | element {elements : List (Option Pattern)} {element : Pattern}
      (hmem : some element ∈ elements) (h : BindsDefault key name default element) :
      BindsDefault key name default (.array elements)
  | target {left : Pattern} {right : Expr} (h : BindsDefault key name default left) :
      BindsDefault key name default (.assignment left right)

end Pattern

/-- What becomes of a binding when defaults are left out. The keys, variables and defaults of the
properties that are bound to a variable with a default are those for which `binds` holds. -/
inductive Binding.Stripped (binds : String → String → Expr → Prop) : Binding → Binding → Prop
  | unknown : Stripped binds .unknown .unknown
  | name (key : String) : Stripped binds (.named key .null) (.named key .null)
  | default (name : String) (default : Expr) :
      Stripped binds (.named name default.value) (.named name .null)
  | property {key name : String} {default : Expr} (h : binds key name default) :
      Stripped binds (.named name default.value) (.named key .null)

/-- What is left of the value of a binding without defaults. -/
def Value.withoutDefault : Value → Value
  | .unknown => .unknown
  | _ => .null

theorem Expr.withoutDefault_value (expr : Expr) : expr.value.withoutDefault = .null := by
  cases expr with
  | literal literal => cases literal <;> rfl
  | member target property =>
      rw [value]
      split <;> rfl
  | _ => rfl

/-! ### Bindings -/

namespace Pattern

variable {binds : String → String → Expr → Prop}

/-- What is a name without its defaults is a name or has one default. -/
theorem eq_of_withoutDefaults_eq {pattern : Pattern} {name : String}
    (hshape : pattern.isGrammatical) (h : pattern.withoutDefaults = .identifier name) :
    pattern = .identifier name ∨ ∃ default, pattern = .assignment (.identifier name) default := by
  cases pattern with
  | identifier other => exact .inl h
  | assignment left right =>
      cases left with
      | identifier other =>
          rw [withoutDefaults, withoutDefaults] at h
          exact .inr ⟨right, by rw [h]⟩
      | assignment => cases hshape
      | _ => cases h
  | _ => cases h

theorem propertyBindings_of_ne (key : String) {value : Pattern} (tail : List PropertyPattern)
    (h : ∀ name, value ≠ .identifier name) :
    propertyBindings (.property key value :: tail) = bindings value ++ propertyBindings tail := by
  rw [propertyBindings_property]
  split
  · next name => exact absurd rfl (h name)
  · rfl

theorem stripped_restBinding {argument : Pattern} (hshape : argument.isAssignment = false) :
    Binding.Stripped binds (restBinding argument) (restBinding argument.withoutDefaults) := by
  cases argument with
  | identifier name => exact .name ("..." ++ name)
  | assignment => cases hshape
  | _ => exact .unknown

mutual

theorem stripped_bindings (pattern : Pattern) (hshape : pattern.isGrammatical)
    (h : ∀ key name default, pattern.BindsDefault key name default → binds key name default) :
    List.Forall₂ (Binding.Stripped binds) (bindings pattern)
      (bindings pattern.withoutDefaults) := by
  cases pattern with
  | identifier name => exact .cons (.name name) .nil
  | assignment left right =>
      rw [isGrammatical, Bool.and_eq_true] at hshape
      rw [bindings_assignment, withoutDefaults]
      split
      · next name => exact .cons (.default name right) .nil
      · exact stripped_bindings left hshape.2 fun key name default hbinds =>
          h key name default (.target hbinds)
  | object properties =>
      exact stripped_propertyBindings properties hshape
        (fun key name default hmem => h key name default (.here hmem))
        fun _ _ hmem key name default hbinds => h key name default (.property hmem hbinds)
  | array elements =>
      exact stripped_elementBindings elements hshape fun _ hmem key name default hbinds =>
        h key name default (.element hmem hbinds)
  | rest argument =>
      rw [isGrammatical, Bool.not_eq_true'] at hshape
      exact .cons (stripped_restBinding hshape) .nil
  | unsupported node => exact .cons .unknown .nil

theorem stripped_propertyBindings (properties : List PropertyPattern)
    (hshape : arePropertiesGrammatical properties)
    (hhere : ∀ key name default,
      .property key (.assignment (.identifier name) default) ∈ properties →
        binds key name default)
    (h : ∀ other value, .property other value ∈ properties →
      ∀ key name default, value.BindsDefault key name default → binds key name default) :
    List.Forall₂ (Binding.Stripped binds) (propertyBindings properties)
      (propertyBindings (propertiesWithoutDefaults properties)) := by
  cases properties with
  | nil => exact .nil
  | cons property tail =>
      have htail (hshape : arePropertiesGrammatical tail) :=
        stripped_propertyBindings tail hshape
          (fun key name default hmem => hhere key name default (List.mem_cons_of_mem property hmem))
          fun other value hmem => h other value (List.mem_cons_of_mem property hmem)
      cases property with
      | rest argument =>
          rw [arePropertiesGrammatical, Bool.and_eq_true, Bool.not_eq_true'] at hshape
          exact .cons (stripped_restBinding hshape.1) (htail hshape.2)
      | property key value =>
          rw [arePropertiesGrammatical, Bool.and_eq_true] at hshape
          have hvalue := stripped_bindings value hshape.1 (h key value List.mem_cons_self)
          rw [propertiesWithoutDefaults]
          by_cases hname : ∃ name, value.withoutDefaults = .identifier name
          · -- The default decides by what the property counts.
            obtain ⟨name, hname⟩ := hname
            rw [hname]
            rcases eq_of_withoutDefaults_eq hshape.1 hname with rfl | ⟨default, rfl⟩
            · exact .cons (.name key) (htail hshape.2)
            · exact .cons (.property (hhere key name default List.mem_cons_self)) (htail hshape.2)
          · have hne : ∀ name, value ≠ .identifier name := by
              rintro name rfl
              exact hname ⟨name, rfl⟩
            rw [propertyBindings_of_ne key tail hne,
              propertyBindings_of_ne key _ (not_exists.mp hname)]
            exact List.rel_append hvalue (htail hshape.2)

theorem stripped_elementBindings (elements : List (Option Pattern))
    (hshape : areElementsGrammatical elements)
    (h : ∀ element, some element ∈ elements →
      ∀ key name default, element.BindsDefault key name default → binds key name default) :
    List.Forall₂ (Binding.Stripped binds) (elementBindings elements)
      (elementBindings (elementsWithoutDefaults elements)) := by
  cases elements with
  | nil => exact .nil
  | cons element tail =>
      have htail (hshape : areElementsGrammatical tail) :=
        stripped_elementBindings tail hshape fun other hmem =>
          h other (List.mem_cons_of_mem element hmem)
      cases element with
      | none => exact htail hshape
      | some element =>
          rw [areElementsGrammatical, Bool.and_eq_true] at hshape
          exact List.rel_append
            (stripped_bindings element hshape.1 (h element List.mem_cons_self)) (htail hshape.2)

end

theorem stripped_flatMap_bindings {params : List Pattern} (hshape : ∀ p ∈ params, p.isGrammatical)
    (h : ∀ p ∈ params, ∀ key name default,
      p.BindsDefault key name default → binds key name default) :
    List.Forall₂ (Binding.Stripped binds) (params.flatMap bindings)
      ((params.map withoutDefaults).flatMap bindings) := by
  induction params with
  | nil => exact .nil
  | cons param tail ih =>
      obtain ⟨hparam, htail⟩ := List.forall_mem_cons.mp hshape
      obtain ⟨hbinds, hrest⟩ := List.forall_mem_cons.mp h
      exact List.rel_append (stripped_bindings param hparam hbinds) (ih htail hrest)

/-- Where no default changes a key, entries stay under their keys. -/
theorem entriesFrom_stripped {bindings stripped : List Binding}
    (h : List.Forall₂ (Binding.Stripped fun key name _ => key = name) bindings stripped)
    (seen : Nat) :
    Binding.entriesFrom seen stripped =
      Entries.mapValues Value.withoutDefault (Binding.entriesFrom seen bindings) := by
  induction h generalizing seen with
  | nil => rfl
  | cons hbinding _ ih =>
      cases hbinding with
      | unknown => exact congrArg ((Binding.unknownKeyAt (seen + 1), Value.unknown) :: ·) (ih _)
      | name key => exact congrArg ((key, Value.null) :: ·) (ih seen)
      | default name default =>
          rw [Binding.entriesFrom, Binding.entriesFrom, ih]
          simp [Entries.mapValues, default.withoutDefault_value]
      | property heq =>
          next key name default =>
            rw [Binding.entriesFrom, Binding.entriesFrom, ih]
            simp [Entries.mapValues, default.withoutDefault_value, heq]

/-- A value that is neither `null` nor `unknown` is that of a default of a variable. -/
theorem exists_default_of_mem {params : List Pattern} {entry : String × Value}
    (hmem : entry ∈ Binding.entriesFrom 0 (params.flatMap bindings))
    (hvalue : entry.2.withoutDefault ≠ entry.2) :
    ∃ default, .plain entry.1 (some default) ∈ paramBound params ∧ default.value = entry.2 := by
  rcases List.mem_append.mp ((entriesFrom_perm_bound params).mem_iff.mp hmem) with hmem | hmem
  · obtain ⟨v, hv, rfl⟩ := List.mem_map.mp hmem
    cases v with
    | plain name default? =>
        cases default? with
        | none => exact absurd rfl hvalue
        | some default => exact ⟨default, hv, rfl⟩
    | property key name => exact absurd rfl hvalue
    | rest name => exact absurd rfl hvalue
  · obtain ⟨n, -, rfl⟩ := List.mem_map.mp hmem
    exact absurd rfl hvalue

/-- Without defaults every binding stays in its place and keeps its key, but a property that is
bound to a variable with a default counts by its key instead of the name of the variable. Where the
two are the same for each such property, the keys of what is declared stay as they are, in the same
order, and only the values of variables with a default become `null`. -/
theorem describe_withoutDefaults {params : List Pattern} (hshape : ∀ p ∈ params, p.isGrammatical) :
    List.Forall₂
        (Binding.Stripped fun key name default => ∃ p ∈ params, p.BindsDefault key name default)
        (params.flatMap bindings) ((params.map withoutDefaults).flatMap bindings) ∧
      ((∀ p ∈ params, ∀ key name default, p.BindsDefault key name default → key = name) →
        ∃ entries stripped, describe params = .object entries ∧
          describe (params.map withoutDefaults) = .object stripped ∧
          Entries.keys stripped = Entries.keys entries ∧
          stripped = Entries.mapValues Value.withoutDefault entries ∧
          ∀ entry ∈ entries, entry.2.withoutDefault ≠ entry.2 →
            ∃ default, .plain entry.1 (some default) ∈ paramBound params ∧
              default.value = entry.2) := by
  refine ⟨?_, fun hsame => ?_⟩
  · exact stripped_flatMap_bindings hshape fun p hp key name default hbinds => ⟨p, hp, hbinds⟩
  · have hentries := entriesFrom_stripped (stripped_flatMap_bindings hshape hsame) 0
    refine ⟨_, _, rfl, ?_, Entries.keys_mapValues _ _, rfl, fun entry hmem hvalue => ?_⟩
    · rw [describe, describeFrom, hentries, Value.ofEntries, Entries.ofList_mapValues]
    · exact exists_default_of_mem (Entries.mem_of_mem_ofList hmem) hvalue

/-- The parameters of `(a = true, { b = 'x', c: [d = p.q] } = {}, ...[e])`. -/
def defaultedParams : List Pattern :=
  [.assignment (.identifier "a") (.literal (.bool true)),
    .assignment
      (.object [.property "b" (.assignment (.identifier "b") (.literal (.string "x"))),
        .property "c" (.array [some (.assignment (.identifier "d")
          (.member (.identifier "p") (some "q")))])])
      (.object []),
    .rest (.array [some (.identifier "e")])]

/-- Defaults of every place, of which all but the one of an object pattern count. -/
theorem describe_withoutDefaults_nested :
    TypeScript.declared
        "(a = true, \x7b b = 'x', c: [d = p.q] \x7d = \x7b\x7d, ...[e]) => a" =
      .ok (some (describe defaultedParams)) ∧
    ∃ entries stripped, describe defaultedParams = .object entries ∧
      describe (defaultedParams.map withoutDefaults) = .object stripped ∧
      Entries.keys stripped = ["a", "b", "d", "[unknown]"] ∧
      stripped = Entries.mapValues Value.withoutDefault entries := by
  have hshape : ∀ p ∈ defaultedParams, p.isGrammatical := by decide
  have hsame : ∀ p ∈ defaultedParams, ∀ key name default,
      p.BindsDefault key name default → key = name := by
    intro p hp key name default hbinds
    simp only [defaultedParams, List.mem_cons, List.not_mem_nil, or_false] at hp
    rcases hp with rfl | rfl | rfl <;> cases hbinds
    · contradiction
    · next h =>
        -- Only the property `b` is bound to a variable with a default.
        cases h with
        | here hmem => simp_all
        | property hmem h =>
            simp only [List.mem_cons, PropertyPattern.property.injEq, List.not_mem_nil,
              or_false] at hmem
            rcases hmem with ⟨-, rfl⟩ | ⟨-, rfl⟩ <;> cases h
            · contradiction
            · next h hmem =>
                obtain rfl := Option.some.inj (List.mem_singleton.mp hmem)
                cases h
                contradiction
  obtain ⟨entries, stripped, hdescribe, hstripped, hkeys, hvalues, -⟩ :=
    (describe_withoutDefaults hshape).2 hsame
  refine ⟨by decide +kernel, entries, stripped, hdescribe, hstripped, ?_, hvalues⟩
  rw [hkeys]
  obtain rfl := Value.object.inj hdescribe
  rfl

/-- With a default the variable counts, and without one the key of its property. -/
theorem describe_renamed_default :
    let params : List Pattern :=
      [.object [.property "a" (.assignment (.identifier "x") (.literal (.bool true)))]]
    (∀ p ∈ params, p.isGrammatical) ∧
      TypeScript.declared "function f(\x7b a: x = true \x7d) \x7b\x7d" =
        .ok (some (describe params)) ∧
      describe params = .object [("x", .bool true)] ∧
      TypeScript.declared "function f(\x7b a: x \x7d) \x7b\x7d" =
        .ok (some (describe (params.map withoutDefaults))) ∧
      describe (params.map withoutDefaults) = .object [("a", .null)] := by
  refine ⟨by decide, by decide +kernel, by decide +kernel, by decide +kernel, by decide +kernel⟩

end Pattern

end SnippetBridge
