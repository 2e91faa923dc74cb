import SnippetBridge.Proofs.Snippet.Parameters

/-!
When every binding of a parameter list has an entry of its own. A variable counts by its name, by
the key of the property that is bound to it, or by its name behind three dots; a pattern that is not
understood counts by its number. Names are told apart by what they begin with, so only the key of a
property that is bound to a variable of another name can be in the way of another binding.
-/

namespace SnippetBridge

/-- A variable that a parameter list binds, where its patterns are understood. -/
inductive Variable where
  /-- Bound by its name, with a default or without. -/
  | plain (name : String) (default? : Option Expr)
  /-- Bound by a property, as a plain name. -/
  | property (key name : String)
  /-- Bound to what is left over. -/
  | rest (name : String)

namespace Variable

def name : Variable → String
  | .plain name _ => name
  | .property _ name => name
  | .rest name => name

/-- The key that a variable counts by. -/
def key : Variable → String
  | .plain name _ => name
  | .property key _ => key
  | .rest name => "..." ++ name

/-- The value of the default of a variable, or `null` if it has none of its own. -/
def value : Variable → Value
  | .plain _ (some default) => default.value
  | _ => .null

/-- Whether a variable is bound by a property of another name. -/
def Renamed : Variable → Prop
  | .property key name => key ≠ name
  | _ => False

end Variable

/-- No name of a variable begins with a dot or with a bracket. -/
def IsVariableName (name : String) : Prop := ∀ c ∈ name.toList.head?, c ≠ '.' ∧ c ≠ '['

namespace Pattern

def restBound : Pattern → List Variable
  | .identifier name => [.rest name]
  | _ => []

mutual

/-- The variables that a pattern binds, in source order, where it is understood. -/
def bound : Pattern → List Variable
  | .identifier name => [.plain name none]
  | .assignment (.identifier name) right => [.plain name (some right)]
  | .assignment left _ => bound left
  | .object properties => propertyBound properties
  | .array elements => elementBound elements
  | .rest argument => restBound argument
  | .unsupported _ => []

def propertyBound : List PropertyPattern → List Variable
  | [] => []
  | .rest argument :: tail => restBound argument ++ propertyBound tail
  | .property key (.identifier name) :: tail => .property key name :: propertyBound tail
  | .property _ value :: tail => bound value ++ propertyBound tail

def elementBound : List (Option Pattern) → List Variable
  | [] => []
  | none :: tail => elementBound tail
  | some element :: tail => bound element ++ elementBound tail

end

/-- The variables that a parameter list binds, where its patterns are understood. -/
def paramBound (params : List Pattern) : List Variable := params.flatMap bound

/-- Parameters with pairwise distinct variables, where the key of a property that is bound to a
variable of another name is the key of nothing else. -/
structure Distinct (params : List Pattern) : Prop where
  names : ((paramBound params).map Variable.name).Nodup
  variableNames : ∀ v ∈ paramBound params, IsVariableName v.name
  renamed : ∀ v ∈ paramBound params, v.Renamed →
    (∀ w ∈ paramBound params, w.key = v.key → w = v) ∧
      ∀ n, 1 ≤ n → n ≤ paramUnknowns params → v.key ≠ Binding.unknownKeyAt n

end Pattern

/-! ### Keys of patterns that are not understood -/

namespace Binding

theorem head?_unknownKeyAt (n : Nat) : (unknownKeyAt n).toList.head? = some '[' := by
  rw [unknownKeyAt]
  split <;> simp [unknownKey]

theorem unknownKeyAt_injective : Function.Injective unknownKeyAt := by
  -- The first key has no colon, and the number can be read off any other one.
  have hfirst (n : Nat) (hn : n ≠ 1) : unknownKeyAt 1 ≠ unknownKeyAt n := by
    intro h
    have htexts := congrArg String.toList h
    simp [unknownKeyAt, hn, unknownKey] at htexts
  intro m n h
  by_cases hm : m = 1
  · by_contra hne
    exact hfirst n (fun hn => hne (hm.trans hn.symm)) (hm ▸ h)
  by_cases hn : n = 1
  · exact absurd (hn ▸ h).symm (hfirst m hm)
  have htexts := congrArg String.toList h
  simp only [unknownKeyAt, if_neg hm, if_neg hn, String.toList_append, List.append_assoc,
    List.append_cancel_left_eq, List.append_cancel_right_eq, String.toList_ofList] at htexts
  simpa using congrArg (fun digits => Nat.ofDigitChars 10 digits 0) htexts

/-- The entry of a binding that has a name. -/
def named? : Binding → Option (String × Value)
  | .named key value => some (key, value)
  | .unknown => none

/-- The entries of the bindings without a name, numbered from `start` on. -/
def unknownEntries (start count : Nat) : List (String × Value) :=
  (List.range' start count).map fun n => (unknownKeyAt n, .unknown)

/-- Bindings make the entries of those with a name and the entries of those without one. -/
theorem entriesFrom_perm (seen : Nat) (bindings : List Binding) :
    (entriesFrom seen bindings).Perm
      (bindings.filterMap named? ++ unknownEntries (seen + 1) (bindings.countP isUnknown)) := by
  induction bindings generalizing seen with
  | nil => exact .nil
  | cons binding rest ih =>
      cases binding with
      | named key value =>
          rw [entriesFrom, List.countP_cons_of_neg (by simp [isUnknown])]
          exact (ih seen).cons (key, value)
      | unknown =>
          rw [entriesFrom, List.countP_cons_of_pos rfl, unknownEntries, List.range'_succ,
            List.map_cons]
          exact ((ih (seen + 1)).cons _).trans List.perm_middle.symm

end Binding

namespace IsVariableName

theorem ne_rest {name : String} (h : IsVariableName name) (other : String) :
    name ≠ "..." ++ other := by
  rintro rfl
  simp [IsVariableName] at h

theorem ne_unknownKeyAt {name : String} (h : IsVariableName name) (n : Nat) :
    name ≠ Binding.unknownKeyAt n := by
  rintro rfl
  exact (h '[' (Binding.head?_unknownKeyAt n)).2 rfl

end IsVariableName

/-! ### Bindings of variables -/

namespace Variable

def entry (v : Variable) : String × Value := (v.key, v.value)

end Variable

namespace Pattern

theorem named_restBinding (argument : Pattern) :
    [restBinding argument].filterMap Binding.named? =
      (restBound argument).map Variable.entry := by
  cases argument <;> rfl

theorem bound_assignment (left : Pattern) (right : Expr) :
    bound (.assignment left right) =
      match left with
      | .identifier name => [.plain name (some right)]
      | _ => bound left := by
  cases left <;> rfl

theorem propertyBound_property (key : String) (value : Pattern) (tail : List PropertyPattern) :
    propertyBound (.property key value :: tail) =
      match value with
      | .identifier name => .property key name :: propertyBound tail
      | _ => bound value ++ propertyBound tail := by
  cases value <;> rfl

mutual

/-- The bindings of a pattern that have a name are those of its variables. -/
theorem named_bindings (pattern : Pattern) :
    (bindings pattern).filterMap Binding.named? = (bound pattern).map Variable.entry := by
  cases pattern with
  | identifier name => rfl
  | assignment left right =>
      have hleft := named_bindings left
      rw [bindings_assignment, bound_assignment]
      cases left with
      | identifier name => rfl
      | _ => exact hleft
  | object properties => exact named_propertyBindings properties
  | array elements => exact named_elementBindings elements
  | rest argument => exact named_restBinding argument
  | unsupported node => rfl

theorem named_propertyBindings (properties : List PropertyPattern) :
    (propertyBindings properties).filterMap Binding.named? =
      (propertyBound properties).map Variable.entry := by
  cases properties with
  | nil => rfl
  | cons property tail =>
      have htail := named_propertyBindings tail
      cases property with
      | rest argument =>
          rw [propertyBindings, propertyBound, ← List.singleton_append, List.filterMap_append,
            named_restBinding, htail, List.map_append]
      | property key value =>
          have hvalue := named_bindings value
          rw [propertyBindings_property, propertyBound_property]
          cases value with
          | identifier name => exact congrArg ((key, Value.null) :: ·) htail
          | _ => rw [List.filterMap_append, hvalue, htail, List.map_append]

theorem named_elementBindings (elements : List (Option Pattern)) :
    (elementBindings elements).filterMap Binding.named? =
      (elementBound elements).map Variable.entry := by
  cases elements with
  | nil => rfl
  | cons element tail =>
      have htail := named_elementBindings tail
      cases element with
      | none => exact htail
      | some element =>
          rw [elementBindings, elementBound, List.filterMap_append, named_bindings element,
            htail, List.map_append]

end

theorem named_flatMap_bindings (params : List Pattern) :
    (params.flatMap bindings).filterMap Binding.named? =
      (paramBound params).map Variable.entry := by
  induction params with
  | nil => rfl
  | cons param tail ih =>
      rw [paramBound] at ih ⊢
      rw [List.flatMap_cons, List.filterMap_append, named_bindings, ih, List.flatMap_cons,
        List.map_append]

/-- The entries that a parameter list makes, apart from their order: one for each variable and one
for each pattern that is not understood. -/
theorem entriesFrom_perm_bound (params : List Pattern) :
    (Binding.entriesFrom 0 (params.flatMap bindings)).Perm
      ((paramBound params).map Variable.entry ++
        Binding.unknownEntries 1 (paramUnknowns params)) := by
  have hperm := Binding.entriesFrom_perm 0 (params.flatMap bindings)
  rwa [named_flatMap_bindings, countP_flatMap_bindings] at hperm

/-! ### Distinct keys -/

section

variable {params : List Pattern} {v w : Variable}

/-- A variable that is not renamed counts by its name or by its name behind dots. -/
theorem key_of_not_renamed (h : ¬v.Renamed) : v.key = v.name ∨ v.key = "..." ++ v.name := by
  cases v with
  | plain name default? => exact .inl rfl
  | property key name => exact .inl (not_not.mp h)
  | rest name => exact .inr rfl

/-- Variables of different names count by different keys. -/
theorem Distinct.eq_of_key_eq (h : Distinct params) (hv : v ∈ paramBound params)
    (hw : w ∈ paramBound params) (hkey : v.key = w.key) : v = w := by
  by_cases hrv : v.Renamed
  · exact ((h.renamed v hv hrv).1 w hw hkey.symm).symm
  by_cases hrw : w.Renamed
  · exact (h.renamed w hw hrw).1 v hv hkey
  have hname : v.name = w.name := by
    rcases key_of_not_renamed hrv with hkv | hkv <;>
      rcases key_of_not_renamed hrw with hkw | hkw <;> rw [hkv, hkw] at hkey
    · exact hkey
    · exact absurd hkey ((h.variableNames v hv).ne_rest w.name)
    · exact absurd hkey.symm ((h.variableNames w hw).ne_rest v.name)
    · exact String.append_right_inj _ |>.mp hkey
  exact List.inj_on_of_nodup_map h.names hv hw hname

/-- No variable counts by the key of a pattern that is not understood. -/
theorem Distinct.key_ne_unknownKeyAt (h : Distinct params) (hv : v ∈ paramBound params)
    {n : Nat} (hone : 1 ≤ n) (hn : n ≤ paramUnknowns params) :
    v.key ≠ Binding.unknownKeyAt n := by
  by_cases hrenamed : v.Renamed
  · exact (h.renamed v hv hrenamed).2 n hone hn
  rcases key_of_not_renamed hrenamed with hkey | hkey
  · exact hkey ▸ (h.variableNames v hv).ne_unknownKeyAt n
  · intro heq
    have hhead := Binding.head?_unknownKeyAt n
    rw [← heq, hkey] at hhead
    simp at hhead

theorem Distinct.nodup_keys (h : Distinct params) :
    (Entries.keys (Binding.entriesFrom 0 (params.flatMap bindings))).Nodup := by
  have hperm := (entriesFrom_perm_bound params).map Prod.fst
  refine hperm.nodup_iff.mpr ?_
  rw [List.map_append, List.nodup_append]
  refine ⟨?_, ?_, ?_⟩
  · rw [List.map_map]
    exact h.names.of_map.map_on fun v hv w hw hkey => h.eq_of_key_eq hv hw hkey
  · rw [Binding.unknownEntries, List.map_map]
    exact List.Nodup.map Binding.unknownKeyAt_injective List.nodup_range'
  · simp only [Binding.unknownEntries, List.map_map, List.mem_map, List.mem_range'_1]
    rintro _ ⟨v, hv, rfl⟩ _ ⟨n, hn, rfl⟩
    exact h.key_ne_unknownKeyAt hv hn.1 (by omega)

end

/-- No binding of such parameters is overwritten by a later one: the entries are the bindings in
source order, one for each variable and one for each pattern that is not understood. A variable
has its entry with the value of its own default, and `unknown` stands under a key of its own for
each pattern that is not understood. -/
theorem describe_of_distinct {params : List Pattern} (h : Distinct params) :
    ∃ entries, describe params = .object entries ∧
      entries = Binding.entriesFrom 0 (params.flatMap bindings) ∧
      entries.length = paramUnknowns params + (paramBound params).length ∧
      (∀ v ∈ paramBound params, Entries.find? v.key entries = some v.value) ∧
      ∀ n, 1 ≤ n → n ≤ paramUnknowns params →
        Entries.find? (Binding.unknownKeyAt n) entries = some .unknown := by
  have hnodup := h.nodup_keys
  have hperm := entriesFrom_perm_bound params
  refine ⟨_, congrArg Value.object (Entries.ofList_of_nodup hnodup), rfl, ?_, ?_, ?_⟩
  · rw [hperm.length_eq, List.length_append, List.length_map, Binding.unknownEntries,
      List.length_map, List.length_range', Nat.add_comm]
  · intro v hv
    have hmem : v.entry ∈ (paramBound params).map Variable.entry := List.mem_map_of_mem hv
    exact Entries.find?_of_mem hnodup (hperm.mem_iff.mpr (List.mem_append_left _ hmem))
  · intro n hone hn
    have hmem : (Binding.unknownKeyAt n, Value.unknown) ∈
        Binding.unknownEntries 1 (paramUnknowns params) :=
      List.mem_map.mpr ⟨n, List.mem_range'_1.mpr ⟨hone, by omega⟩, rfl⟩
    exact Entries.find?_of_mem hnodup (hperm.mem_iff.mpr (List.mem_append_right _ hmem))

/-- The parameters of `(this: T, a = true, { b: x, c: { d = 'e' }, ...o }, ...[y])`. -/
def mixedParams : List Pattern :=
  [.unsupported "this", .assignment (.identifier "a") (.literal (.bool true)),
    .object [.property "b" (.identifier "x"),
      .property "c" (.object
        [.property "d" (.assignment (.identifier "d") (.literal (.string "e")))]),
      .rest (.identifier "o")],
    .rest (.array [some (.identifier "y")])]

/-- Six bindings of every kind, and six entries. -/
theorem describe_of_distinct_mixed :
    Distinct mixedParams ∧ ∃ entries, describe mixedParams = .object entries ∧
      entries.length = 6 ∧ Entries.find? "a" entries = some (.bool true) ∧
      Entries.find? "b" entries = some .null ∧ Entries.find? "...o" entries = some .null ∧
      Entries.find? "[unknown:2]" entries = some .unknown := by
  have hkey (n : Nat) : "b" ≠ Binding.unknownKeyAt n := by
    intro h
    have hhead := Binding.head?_unknownKeyAt n
    simp [← h] at hhead
  have hdistinct : Distinct mixedParams := by
    refine ⟨by decide, ?_, ?_⟩
    · simp [mixedParams, paramBound, bound, propertyBound, restBound, IsVariableName,
        Variable.name]
    · simp [mixedParams, paramBound, bound, propertyBound, restBound, Variable.Renamed,
        Variable.key, hkey]
  obtain ⟨entries, hdescribe, -, hlength, hbound, hunknown⟩ := describe_of_distinct hdistinct
  refine ⟨hdistinct, entries, hdescribe, hlength, ?_, ?_, ?_, ?_⟩
  · exact hbound (.plain "a" (some (.literal (.bool true))))
      (by simp [mixedParams, paramBound, bound])
  · exact hbound (.property "b" "x") (by simp [mixedParams, paramBound, bound, propertyBound])
  · exact hbound (.rest "o") (by simp [mixedParams, paramBound, bound, propertyBound, restBound])
  · exact hunknown 2 (by decide) (by decide)

/-- A property that is bound to a variable of another name counts by its key. Where the key is the
name of another variable, the two share an entry, and the default of that variable is lost. -/
theorem describe_shared_key :
    let params : List Pattern := [.assignment (.identifier "a") (.literal (.bool true)),
      .object [.property "a" (.identifier "x")]]
    ((paramBound params).map Variable.name).Nodup ∧
      TypeScript.declared "function f(a = true, \x7b a: x \x7d) \x7b\x7d" =
        .ok (some (describe params)) ∧
      describe params = .object [("a", .null)] ∧
      paramUnknowns params + (paramBound params).length = 2 := by
  refine ⟨by decide, by decide +kernel, by decide +kernel, by decide⟩

end Pattern

end SnippetBridge
