import SnippetBridge.Proofs.Value.WellFormed
import SnippetBridge.TypeScript.Source

/-!
What a snippet declares is sound. Every object of it is made by inserting entries one after the
other, so it repeats no key; and every reference of it has the path of a chain of members that
stands in the snippet where it counts.
-/

namespace SnippetBridge

open Value

/-- The names of a chain of members, from its root on. -/
def Expr.names? : Expr → Option (List String)
  | .identifier name => some [name]
  | .member target (some property) => target.names?.map (· ++ [property])
  | _ => none

/-- A chain of members with these names stands in the expression, and shows in its value. -/
inductive Expr.Refers : Expr → List String → Prop
  | chain {target : Expr} {property : Option String} {names : List String}
      (hnames : (Expr.member target property).names? = some names) :
      Refers (.member target property) names
  | element {elements : List (Option Expr)} {element : Expr} {names : List String}
      (hmem : some element ∈ elements) (h : Refers element names) : Refers (.array elements) names
  | property {properties : List (String × Expr)} {key : String} {value : Expr}
      {names : List String} (hmem : (key, value) ∈ properties) (h : Refers value names) :
      Refers (.object properties) names

/-- A chain of members with these names stands in a default that counts. -/
inductive Pattern.Refers : Pattern → List String → Prop
  | default {name : String} {right : Expr} {names : List String} (h : right.Refers names) :
      Refers (.assignment (.identifier name) right) names
  | target {left : Pattern} {right : Expr} {names : List String} (h : Refers left names) :
      Refers (.assignment left right) names
  | property {properties : List PropertyPattern} {key : String} {value : Pattern}
      {names : List String} (hmem : .property key value ∈ properties) (h : Refers value names) :
      Refers (.object properties) names
  | element {elements : List (Option Pattern)} {element : Pattern} {names : List String}
      (hmem : some element ∈ elements) (h : Refers element names) : Refers (.array elements) names

/-- A chain of members with these names stands in what an expression declares. -/
def Expr.Declares : Expr → List String → Prop
  | .function params, names => ∃ param ∈ params, param.Refers names
  | expr, names => expr.Refers names

/-- A chain of members with these names stands in what a statement declares. -/
def Statement.Declares : Statement → List String → Prop
  | .function params, names => ∃ param ∈ params, param.Refers names
  | .variable init, names => ∃ expr ∈ init, expr.Declares names
  | .expression expr, names => expr.Declares names
  | .unsupported _, _ => False

variable {p : String → Prop}

namespace Expr

theorem names?_ne_nil {expr : Expr} {names : List String} (h : expr.names? = some names) :
    names ≠ [] := by
  cases expr with
  | identifier name =>
      cases h
      simp
  | member target property =>
      cases property with
      | none => cases h
      | some property =>
          obtain ⟨front, -, rfl⟩ := Option.map_eq_some_iff.mp h
          simp
  | _ => cases h

/-- The path of a chain of members is the names of the chain with dots between them. -/
theorem path?_eq_map_names? (expr : Expr) : expr.path? = expr.names?.map (".".intercalate ·) := by
  fun_induction Expr.path? expr with
  | case1 name => simp [names?]
  | case2 target property ih =>
      rw [names?, ih]
      cases hnames : target.names? with
      | none => rfl
      | some names =>
          simp only [Option.map_some, Option.some.injEq]
          rw [String.intercalate_append_of_ne_nil (names?_ne_nil hnames) (by simp),
            String.intercalate_singleton]
  | case3 expr hname hmember =>
      cases expr with
      | identifier name => exact absurd rfl (hname name)
      | member target property =>
          cases property with
          | none => rfl
          | some property => exact absurd rfl (hmember target property)
      | _ => rfl

mutual

theorem sound_value (expr : Expr) (h : ∀ names, expr.Refers names → p (".".intercalate names)) :
    expr.value.Sound p := by
  cases expr with
  | literal literal => cases literal <;> exact ⟨trivial, trivial⟩
  | array elements =>
      exact sound_array.mpr (sound_elementValues elements fun element hmem names hnames =>
        h names (.element hmem hnames))
  | object properties =>
      exact sound_ofEntries (sound_propertyValues properties fun property hmem names hnames =>
        h names (.property hmem hnames))
  | member target property =>
      rw [value, path?_eq_map_names?]
      cases hnames : (Expr.member target property).names? with
      | none => exact ⟨trivial, trivial⟩
      | some names => exact sound_reference.mpr (h names (.chain hnames))
  | identifier name => exact ⟨trivial, trivial⟩
  | function params => exact ⟨trivial, trivial⟩
  | other node => exact ⟨trivial, trivial⟩

theorem sound_elementValues (elements : List (Option Expr))
    (h : ∀ element, some element ∈ elements →
      ∀ names, element.Refers names → p (".".intercalate names)) :
    ∀ item ∈ elementValues elements, item.Sound p := by
  cases elements with
  | nil => simp [elementValues]
  | cons element rest =>
      have hrest := sound_elementValues rest fun other hmem =>
        h other (List.mem_cons_of_mem element hmem)
      cases element with
      | none => exact List.forall_mem_cons.mpr ⟨⟨trivial, trivial⟩, hrest⟩
      | some element =>
          exact List.forall_mem_cons.mpr
            ⟨sound_value element (h element List.mem_cons_self), hrest⟩

theorem sound_propertyValues (properties : List (String × Expr))
    (h : ∀ property ∈ properties, ∀ names, property.2.Refers names → p (".".intercalate names)) :
    ∀ entry ∈ propertyValues properties, entry.2.Sound p := by
  cases properties with
  | nil => simp [propertyValues]
  | cons property rest =>
      obtain ⟨hproperty, hrest⟩ := List.forall_mem_cons.mp h
      exact List.forall_mem_cons.mpr
        ⟨sound_value property.2 hproperty, sound_propertyValues rest hrest⟩

end

end Expr

/-- The value of a binding is sound. -/
def Binding.Sound (p : String → Prop) : Binding → Prop
  | .named _ value => value.Sound p
  | .unknown => True

namespace Pattern

theorem sound_restBinding (argument : Pattern) : (restBinding argument).Sound p := by
  cases argument with
  | identifier name => exact ⟨trivial, trivial⟩
  | _ => trivial

theorem bindings_assignment (left : Pattern) (right : Expr) :
    bindings (.assignment left right) =
      match left with
      | .identifier name => [.named name right.value]
      | _ => bindings left := by
  cases left <;> rfl

theorem propertyBindings_property (key : String) (value : Pattern) (tail : List PropertyPattern) :
    propertyBindings (.property key value :: tail) =
      match value with
      | .identifier _ => .named key .null :: propertyBindings tail
      | _ => bindings value ++ propertyBindings tail := by
  cases value <;> rfl

mutual

theorem sound_bindings (pattern : Pattern)
    (h : ∀ names, pattern.Refers names → p (".".intercalate names)) :
    ∀ binding ∈ bindings pattern, binding.Sound p := by
  cases pattern with
  | identifier name => exact List.forall_mem_singleton.mpr ⟨trivial, trivial⟩
  | assignment left right =>
      rw [bindings_assignment]
      split
      · exact List.forall_mem_singleton.mpr (right.sound_value fun names hnames =>
          h names (.default hnames))
      · exact sound_bindings left fun names hnames => h names (.target hnames)
  | object properties =>
      exact sound_propertyBindings properties fun _ _ hmem names hnames =>
        h names (.property hmem hnames)
  | array elements =>
      exact sound_elementBindings elements fun _ hmem names hnames => h names (.element hmem hnames)
  | rest argument => exact List.forall_mem_singleton.mpr (sound_restBinding argument)
  | unsupported node => exact List.forall_mem_singleton.mpr trivial

theorem sound_propertyBindings (properties : List PropertyPattern)
    (h : ∀ key value, .property key value ∈ properties →
      ∀ names, value.Refers names → p (".".intercalate names)) :
    ∀ binding ∈ propertyBindings properties, binding.Sound p := by
  cases properties with
  | nil => simp [propertyBindings]
  | cons property tail =>
      have htail := sound_propertyBindings tail fun key value hmem =>
        h key value (List.mem_cons_of_mem property hmem)
      cases property with
      | rest argument => exact List.forall_mem_cons.mpr ⟨sound_restBinding argument, htail⟩
      | property key value =>
          rw [propertyBindings_property]
          split
          · exact List.forall_mem_cons.mpr ⟨⟨trivial, trivial⟩, htail⟩
          · exact List.forall_mem_append.mpr
              ⟨sound_bindings value (h key value List.mem_cons_self), htail⟩

theorem sound_elementBindings (elements : List (Option Pattern))
    (h : ∀ element, some element ∈ elements →
      ∀ names, element.Refers names → p (".".intercalate names)) :
    ∀ binding ∈ elementBindings elements, binding.Sound p := by
  cases elements with
  | nil => simp [elementBindings]
  | cons element tail =>
      have htail := sound_elementBindings tail fun other hmem =>
        h other (List.mem_cons_of_mem element hmem)
      cases element with
      | none => exact htail
      | some element =>
          exact List.forall_mem_append.mpr
            ⟨sound_bindings element (h element List.mem_cons_self), htail⟩

end

theorem sound_entriesFrom {bindings : List Binding} (h : ∀ b ∈ bindings, b.Sound p) (seen : Nat) :
    ∀ entry ∈ Binding.entriesFrom seen bindings, entry.2.Sound p := by
  induction bindings generalizing seen with
  | nil => simp [Binding.entriesFrom]
  | cons binding rest ih =>
      obtain ⟨hbinding, hrest⟩ := List.forall_mem_cons.mp h
      cases binding with
      | named key value => exact List.forall_mem_cons.mpr ⟨hbinding, ih hrest seen⟩
      | unknown => exact List.forall_mem_cons.mpr ⟨⟨trivial, trivial⟩, ih hrest (seen + 1)⟩

theorem sound_describe (params : List Pattern)
    (h : ∀ param ∈ params, ∀ names, param.Refers names → p (".".intercalate names)) :
    (describe params).Sound p := by
  refine sound_ofEntries (sound_entriesFrom (fun binding hbinding => ?_) 0)
  obtain ⟨param, hparam, hmem⟩ := List.mem_flatMap.mp hbinding
  exact sound_bindings param (h param hparam) binding hmem

end Pattern

theorem Expr.sound_declared {expr : Expr} {value : Value} (h : expr.declared? = some value)
    (hchains : ∀ names, expr.Declares names → p (".".intercalate names)) : value.Sound p := by
  cases expr with
  | function params =>
      cases h
      exact Pattern.sound_describe params fun param hparam names hnames =>
        hchains names ⟨param, hparam, hnames⟩
  | object properties =>
      cases h
      exact Expr.sound_value (.object properties) hchains
  | _ => simp [Expr.declared?] at h

/-- The value that a statement declares is sound for whatever holds of the paths of the chains in
the statement. -/
theorem Statement.sound_declared {statement : Statement} {value : Value}
    (h : statement.declared? = some value)
    (hchains : ∀ names, statement.Declares names → p (".".intercalate names)) : value.Sound p := by
  match statement with
  | .function params =>
      cases h
      exact Pattern.sound_describe params fun param hparam names hnames =>
        hchains names ⟨param, hparam, hnames⟩
  | .variable init =>
      obtain ⟨expr, hinit, hexpr⟩ := Option.bind_eq_some_iff.mp h
      exact Expr.sound_declared hexpr fun names hnames => hchains names ⟨expr, hinit, hnames⟩
  | .expression expr => exact Expr.sound_declared h hchains
  | .unsupported node => simp [Statement.declared?] at h

/-- The value that a source declares repeats no key. -/
theorem TypeScript.wellFormed_declared {source : String} {value : Value}
    (h : TypeScript.declared source = .ok (some value)) : value.WellFormed := by
  rw [TypeScript.declared] at h
  cases hstatement : TypeScript.statement source with
  | error e => rw [hstatement] at h; cases h
  | ok first =>
      rw [hstatement] at h
      simp only [Except.map, Except.ok.injEq] at h
      obtain ⟨statement, -, hdeclared⟩ := Option.bind_eq_some_iff.mp h
      exact (Statement.sound_declared (p := fun _ => True) hdeclared fun _ _ => trivial).wellFormed

end SnippetBridge
