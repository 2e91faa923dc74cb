import SnippetBridge.Proofs.Json.Widening
import SnippetBridge.Snippet.Json
import SnippetBridge.Snippet.Reader

/-!
Snippets survive their JSON form. A node is read by its kind and the names of its fields, so it is
read from every widened form of its own; the only thing that the form does not carry is a number
that is not finite. Hence a snippet is read back if all its numbers are finite, and otherwise not at
all.
-/

namespace SnippetBridge

/-! ### Finite numbers -/

/-- Whether a literal is anything but a number that is not finite. -/
def Literal.isFinite : Literal → Bool
  | .number x => x.isFinite
  | _ => true

mutual

/-- Whether all numbers in a pattern are finite. -/
def Pattern.isFinite : Pattern → Bool
  | .identifier _ => true
  | .assignment left right => left.isFinite && right.isFinite
  | .object properties => PropertyPattern.allFinite properties
  | .array elements => Pattern.elementsFinite elements
  | .rest argument => argument.isFinite
  | .unsupported _ => true

def Pattern.elementsFinite : List (Option Pattern) → Bool
  | [] => true
  | none :: rest => Pattern.elementsFinite rest
  | some element :: rest => element.isFinite && Pattern.elementsFinite rest

def Pattern.allFinite : List Pattern → Bool
  | [] => true
  | pattern :: rest => pattern.isFinite && Pattern.allFinite rest

def PropertyPattern.isFinite : PropertyPattern → Bool
  | .property _ value => value.isFinite
  | .rest argument => argument.isFinite

def PropertyPattern.allFinite : List PropertyPattern → Bool
  | [] => true
  | property :: rest => property.isFinite && PropertyPattern.allFinite rest

def Expr.isFinite : Expr → Bool
  | .function params => Pattern.allFinite params
  | .literal value => value.isFinite
  | .identifier _ => true
  | .member object _ => object.isFinite
  | .array elements => Expr.elementsFinite elements
  | .object properties => Expr.propertiesFinite properties
  | .other _ => true

def Expr.elementsFinite : List (Option Expr) → Bool
  | [] => true
  | none :: rest => Expr.elementsFinite rest
  | some element :: rest => element.isFinite && Expr.elementsFinite rest

def Expr.propertiesFinite : List (String × Expr) → Bool
  | [] => true
  | (_, value) :: rest => value.isFinite && Expr.propertiesFinite rest

end

/-- Whether all numbers in a statement are finite. -/
def Statement.isFinite : Statement → Bool
  | .function params => Pattern.allFinite params
  | .variable init => init.all Expr.isFinite
  | .expression expr => expr.isFinite
  | .unsupported _ => true

/-! ### Nodes -/

namespace Json

variable (kinds : Kinds) (nested : Bool) {kind name first second : String}
  {value value' wide : Json} {fields : List (String × Json)}

/-- A node is found in a widened form by its kind, with the fields of that kind. -/
theorem node?_of_widensTo (h : (tagged kind fields).WidensTo wide)
    (hkind : kinds.find? (fun k => k.1 == kind) = some (kind, Entries.keys fields))
    (hnodup : (Entries.keys fields).Nodup) (hfresh : "kind" ∉ Entries.keys fields) :
    ∃ kept, FieldsWidenTo fields kept ∧
      node? kinds nested wide = some (kind, kept.map fun field => some field.2) := by
  obtain ⟨tagAndKept, extra, found, rfl, ⟨tag, kept, rfl, rfl, hkept⟩, hextra, hperm⟩ := h
  have hkeys := hkept.keys_eq
  have hextra : ∀ field ∈ extra, field.1 ≠ "kind" ∧ field.1 ∉ Entries.keys kept := by
    intro field hfield
    simpa [hkeys] using hextra field hfield
  have hfresh : ∀ field ∈ kept, field.1 ≠ "kind" := fun field hfield hk =>
    hfresh (hkeys ▸ hk ▸ List.mem_map_of_mem hfield)
  have htag : found.filter (fun field => field.1 == "kind") = [("kind", .string kind)] := by
    refine List.perm_singleton.mp ((hperm.filter _).trans (List.Perm.of_eq ?_))
    rw [List.cons_append, List.filter_cons_of_pos (by simp), List.filter_append,
      List.filter_eq_nil_iff.mpr fun field hfield => by simpa using hfresh field hfield,
      List.filter_eq_nil_iff.mpr fun field hfield => by simpa using (hextra field hfield).1]
    rfl
  have hrecord : recordFields? (Entries.keys kept) (fun _ _ => true) found =
      some (kept.map fun field => some field.2) := by
    rw [recordFields?_of_perm _ (hperm.trans List.perm_middle.symm) (hkeys ▸ hnodup),
      if_pos (by simp)]
    refine List.forall_mem_cons.mpr ⟨fun hmem => ?_, fun field hfield => (hextra field hfield).2⟩
    obtain ⟨field, hfield, hk⟩ := List.mem_map.mp hmem
    exact hfresh field hfield hk
  refine ⟨kept, hkept, ?_⟩
  rw [hkeys] at hrecord
  simp [node?, htag, kindOf?, hkind, hrecord]

theorem node?_of_widensTo_one (h : (tagged kind [(name, value)]).WidensTo wide)
    (hkind : kinds.find? (fun k => k.1 == kind) = some (kind, [name])) (hfresh : "kind" ≠ name) :
    ∃ found, value.WidensTo found ∧ node? kinds nested wide = some (kind, [some found]) := by
  obtain ⟨kept, ⟨found, -, rfl, hfound, rfl⟩, hnode⟩ :=
    node?_of_widensTo kinds nested h hkind (by simp) (by simpa using hfresh)
  exact ⟨found, hfound, hnode⟩

theorem node?_of_widensTo_two (h : (tagged kind [(first, value), (second, value')]).WidensTo wide)
    (hkind : kinds.find? (fun k => k.1 == kind) = some (kind, [first, second]))
    (hne : first ≠ second) (hfresh : "kind" ≠ first ∧ "kind" ≠ second) :
    ∃ found found', value.WidensTo found ∧ value'.WidensTo found' ∧
      node? kinds nested wide = some (kind, [some found, some found']) := by
  obtain ⟨kept, ⟨found, -, rfl, hfound, found', -, rfl, hfound', rfl⟩, hnode⟩ :=
    node?_of_widensTo kinds nested h hkind (by simpa using hne) (by simpa using hfresh)
  exact ⟨found, found', hfound, hfound', hnode⟩

theorem exists_of_widensTo_tagged (h : (tagged kind fields).WidensTo wide) :
    ∃ found, wide = .object found := by
  obtain ⟨-, -, found, hfound, -⟩ := h
  exact ⟨found, hfound⟩

/-- There is room for a node in the fuel that its depth asks for. -/
theorem exists_fuel_of_tagged {fuel : Nat} (h : (tagged kind fields).depth ≤ fuel) :
    ∃ n, fuel = n + 1 ∧ depth.fieldsDepth fields ≤ n := by
  simp only [tagged, depth, depth.fieldsDepth] at h
  exact ⟨fuel - 1, by omega, by omega⟩

theorem exists_fuel_of_tagged_array {fuel : Nat} {items : List Json}
    (h : (tagged kind [(name, .array items)]).depth ≤ fuel) :
    ∃ n, fuel = n + 1 ∧ depth.itemsDepth items ≤ n := by
  simp only [tagged, depth, depth.fieldsDepth] at h
  exact ⟨fuel - 1, by omega, by omega⟩

end Json

theorem Literal.ofJson?_toJson (value : Literal) :
    ofJson? value.toJson = if value.isFinite then some value else none := by
  cases value with
  | bool b => rfl
  | number x =>
      rw [toJson, isFinite]
      split <;> rfl
  | string s => rfl

theorem Literal.eq_of_widensTo {value : Literal} {wide : Json} (h : value.toJson.WidensTo wide) :
    wide = value.toJson := by
  cases value with
  | bool b => exact h
  | number x =>
      rw [toJson] at h ⊢
      split at h
      · next hfinite =>
          rw [dif_pos hfinite]
          exact h
      · next hfinite =>
          rw [dif_neg hfinite]
          exact h
  | string s => exact h

/-! ### Trees -/

namespace Snippet

open Json

/-- What may be absent is read from a node as the node is. -/
theorem nullable?_of_widensTo {α : Type} {read : Json → Option α} {kind : String}
    {fields : List (String × Json)} {wide : Json} (h : (tagged kind fields).WidensTo wide) :
    nullable? read wide = (read wide).map some := by
  obtain ⟨found, rfl⟩ := exists_of_widensTo_tagged h
  rfl

/-- A property of an object literal is read from every widened form of its record. -/
theorem property?_of_widensTo {read : Json → Option Expr} {key : String} {value wide : Json}
    (h : (Json.object [("key", .string key), ("value", value)]).WidensTo wide) :
    ∃ found, value.WidensTo found ∧
      property? read wide = (read found).map fun value => (key, value) := by
  obtain ⟨kept, extra, all, rfl, ⟨-, -, rfl, rfl, found, -, rfl, hfound, rfl⟩, hextra, hperm⟩ := h
  have hrecord : recordFields? ["key", "value"] (fun _ _ => true) all =
      some [some (.string key), some found] :=
    recordFields?_of_perm _ hperm (by simp) hextra
  have hread : property? read (.object all) = do return (key, ← read found) := by
    simp [property?, hrecord, string?]
  refine ⟨found, hfound, ?_⟩
  rw [hread]
  cases read found <;> rfl

mutual

/-- A pattern is read from every widened form of its own, if its numbers are finite. -/
theorem pattern?_of_widensTo {fuel : Nat} {nested : Bool} {wide : Json} (pattern : Pattern)
    (h : pattern.toJson.WidensTo wide) (hfuel : pattern.toJson.depth ≤ fuel) :
    pattern? fuel nested wide = if pattern.isFinite then some pattern else none := by
  cases pattern with
  | identifier name =>
      obtain ⟨fuel, rfl, -⟩ := exists_fuel_of_tagged hfuel
      obtain ⟨found, rfl, hnode⟩ := node?_of_widensTo_one patternKinds nested h rfl (by decide)
      simp [pattern?, hnode, string?, Pattern.isFinite]
  | assignment left right =>
      obtain ⟨fuel, rfl, hroom⟩ := exists_fuel_of_tagged hfuel
      simp only [depth.fieldsDepth, Nat.max_le] at hroom
      obtain ⟨found, found', hleft, hright, hnode⟩ :=
        node?_of_widensTo_two patternKinds nested h rfl (by decide) (by decide)
      have hread : pattern? (fuel + 1) nested wide = do
          return .assignment (← pattern? fuel true found) (← expr? fuel true found') := by
        simp [pattern?, hnode]
      rw [hread, pattern?_of_widensTo left hleft hroom.1, expr?_of_widensTo right hright hroom.2.1,
        Pattern.isFinite]
      cases left.isFinite <;> cases right.isFinite <;> rfl
  | object properties =>
      obtain ⟨fuel, rfl, hroom⟩ := exists_fuel_of_tagged_array hfuel
      obtain ⟨_, ⟨found, rfl, hfound⟩, hnode⟩ :=
        node?_of_widensTo_one patternKinds nested h rfl (by decide)
      have hread : pattern? (fuel + 1) nested wide = do
          return .object (← found.mapM (propertyPattern? fuel true)) := by
        simp [pattern?, hnode, arrayOf?]
      rw [hread, propertyPatterns?_of_widensTo properties hfound hroom, Pattern.isFinite]
      cases PropertyPattern.allFinite properties <;> rfl
  | array elements =>
      obtain ⟨fuel, rfl, hroom⟩ := exists_fuel_of_tagged_array hfuel
      obtain ⟨_, ⟨found, rfl, hfound⟩, hnode⟩ :=
        node?_of_widensTo_one patternKinds nested h rfl (by decide)
      have hread : pattern? (fuel + 1) nested wide = do
          return .array (← found.mapM (nullable? (pattern? fuel true))) := by
        simp [pattern?, hnode, arrayOf?]
      rw [hread, patternElements?_of_widensTo elements hfound hroom, Pattern.isFinite]
      cases Pattern.elementsFinite elements <;> rfl
  | rest argument =>
      obtain ⟨fuel, rfl, hroom⟩ := exists_fuel_of_tagged hfuel
      simp only [depth.fieldsDepth, Nat.max_le] at hroom
      obtain ⟨found, hfound, hnode⟩ := node?_of_widensTo_one patternKinds nested h rfl (by decide)
      have hread : pattern? (fuel + 1) nested wide = do
          return .rest (← pattern? fuel true found) := by
        simp [pattern?, hnode]
      rw [hread, pattern?_of_widensTo argument hfound hroom.1, Pattern.isFinite]
      cases argument.isFinite <;> rfl
  | unsupported node =>
      obtain ⟨fuel, rfl, -⟩ := exists_fuel_of_tagged hfuel
      obtain ⟨found, rfl, hnode⟩ := node?_of_widensTo_one patternKinds nested h rfl (by decide)
      simp [pattern?, hnode, string?, Pattern.isFinite]

theorem patternElements?_of_widensTo {fuel : Nat} {found : List Json}
    (elements : List (Option Pattern))
    (h : ItemsWidenTo (Pattern.elementsToJson elements) found)
    (hfuel : depth.itemsDepth (Pattern.elementsToJson elements) ≤ fuel) :
    found.mapM (nullable? (pattern? fuel true)) =
      if Pattern.elementsFinite elements then some elements else none := by
  cases elements with
  | nil =>
      cases h
      rfl
  | cons element rest =>
      cases element with
      | none =>
          obtain ⟨_, more, rfl, rfl, hmore⟩ := h
          simp only [Pattern.elementsToJson, depth.itemsDepth, Nat.max_le] at hfuel
          rw [List.mapM_cons, patternElements?_of_widensTo rest hmore hfuel.2,
            Pattern.elementsFinite]
          cases Pattern.elementsFinite rest <;> rfl
      | some element =>
          obtain ⟨first, more, rfl, hfirst, hmore⟩ := h
          simp only [Pattern.elementsToJson, depth.itemsDepth, Nat.max_le] at hfuel
          have hnullable : nullable? (pattern? fuel true) first =
              (pattern? fuel true first).map some := by
            cases element <;> exact nullable?_of_widensTo hfirst
          rw [List.mapM_cons, hnullable, pattern?_of_widensTo element hfirst hfuel.1,
            patternElements?_of_widensTo rest hmore hfuel.2, Pattern.elementsFinite]
          cases element.isFinite <;> cases Pattern.elementsFinite rest <;> rfl

theorem patterns?_of_widensTo {fuel : Nat} {found : List Json} (patterns : List Pattern)
    (h : ItemsWidenTo (Pattern.listToJson patterns) found)
    (hfuel : depth.itemsDepth (Pattern.listToJson patterns) ≤ fuel) :
    found.mapM (pattern? fuel true) =
      if Pattern.allFinite patterns then some patterns else none := by
  cases patterns with
  | nil =>
      cases h
      rfl
  | cons pattern rest =>
      obtain ⟨first, more, rfl, hfirst, hmore⟩ := h
      simp only [Pattern.listToJson, depth.itemsDepth, Nat.max_le] at hfuel
      rw [List.mapM_cons, pattern?_of_widensTo pattern hfirst hfuel.1,
        patterns?_of_widensTo rest hmore hfuel.2, Pattern.allFinite]
      cases pattern.isFinite <;> cases Pattern.allFinite rest <;> rfl

theorem propertyPattern?_of_widensTo {fuel : Nat} {nested : Bool} {wide : Json}
    (property : PropertyPattern) (h : property.toJson.WidensTo wide)
    (hfuel : property.toJson.depth ≤ fuel) :
    propertyPattern? fuel nested wide = if property.isFinite then some property else none := by
  cases property with
  | property key value =>
      obtain ⟨fuel, rfl, hroom⟩ := exists_fuel_of_tagged hfuel
      simp only [depth.fieldsDepth, Nat.max_le] at hroom
      obtain ⟨_, found, rfl, hvalue, hnode⟩ :=
        node?_of_widensTo_two propertyKinds nested h rfl (by decide) (by decide)
      have hread : propertyPattern? (fuel + 1) nested wide = do
          return .property key (← pattern? fuel true found) := by
        simp [propertyPattern?, hnode, string?]
      rw [hread, pattern?_of_widensTo value hvalue hroom.2.1, PropertyPattern.isFinite]
      cases value.isFinite <;> rfl
  | rest argument =>
      obtain ⟨fuel, rfl, hroom⟩ := exists_fuel_of_tagged hfuel
      simp only [depth.fieldsDepth, Nat.max_le] at hroom
      obtain ⟨found, hfound, hnode⟩ := node?_of_widensTo_one propertyKinds nested h rfl (by decide)
      have hread : propertyPattern? (fuel + 1) nested wide = do
          return .rest (← pattern? fuel true found) := by
        simp [propertyPattern?, hnode]
      rw [hread, pattern?_of_widensTo argument hfound hroom.1, PropertyPattern.isFinite]
      cases argument.isFinite <;> rfl

theorem propertyPatterns?_of_widensTo {fuel : Nat} {found : List Json}
    (properties : List PropertyPattern)
    (h : ItemsWidenTo (PropertyPattern.listToJson properties) found)
    (hfuel : depth.itemsDepth (PropertyPattern.listToJson properties) ≤ fuel) :
    found.mapM (propertyPattern? fuel true) =
      if PropertyPattern.allFinite properties then some properties else none := by
  cases properties with
  | nil =>
      cases h
      rfl
  | cons property rest =>
      obtain ⟨first, more, rfl, hfirst, hmore⟩ := h
      simp only [PropertyPattern.listToJson, depth.itemsDepth, Nat.max_le] at hfuel
      rw [List.mapM_cons, propertyPattern?_of_widensTo property hfirst hfuel.1,
        propertyPatterns?_of_widensTo rest hmore hfuel.2, PropertyPattern.allFinite]
      cases property.isFinite <;> cases PropertyPattern.allFinite rest <;> rfl

theorem expr?_of_widensTo {fuel : Nat} {nested : Bool} {wide : Json} (expr : Expr)
    (h : expr.toJson.WidensTo wide) (hfuel : expr.toJson.depth ≤ fuel) :
    expr? fuel nested wide = if expr.isFinite then some expr else none := by
  cases expr with
  | function params =>
      obtain ⟨fuel, rfl, hroom⟩ := exists_fuel_of_tagged_array hfuel
      obtain ⟨_, ⟨found, rfl, hfound⟩, hnode⟩ :=
        node?_of_widensTo_one exprKinds nested h rfl (by decide)
      have hread : expr? (fuel + 1) nested wide = do
          return .function (← found.mapM (pattern? fuel true)) := by
        simp [expr?, hnode, arrayOf?]
      rw [hread, patterns?_of_widensTo params hfound hroom, Expr.isFinite]
      cases Pattern.allFinite params <;> rfl
  | literal value =>
      obtain ⟨fuel, rfl, -⟩ := exists_fuel_of_tagged hfuel
      obtain ⟨found, hfound, hnode⟩ := node?_of_widensTo_one exprKinds nested h rfl (by decide)
      have hread : expr? (fuel + 1) nested wide = do
          return .literal (← Literal.ofJson? value.toJson) := by
        simp [expr?, hnode, Literal.eq_of_widensTo hfound]
      rw [hread, Literal.ofJson?_toJson, Expr.isFinite]
      cases value.isFinite <;> rfl
  | identifier name =>
      obtain ⟨fuel, rfl, -⟩ := exists_fuel_of_tagged hfuel
      obtain ⟨found, rfl, hnode⟩ := node?_of_widensTo_one exprKinds nested h rfl (by decide)
      simp [expr?, hnode, string?, Expr.isFinite]
  | member object property =>
      obtain ⟨fuel, rfl, hroom⟩ := exists_fuel_of_tagged hfuel
      simp only [depth.fieldsDepth, Nat.max_le] at hroom
      obtain ⟨found, found', hobject, hproperty, hnode⟩ :=
        node?_of_widensTo_two exprKinds nested h rfl (by decide) (by decide)
      have hname : nullable? string? found' = some property := by
        cases property <;> cases hproperty <;> rfl
      have hread : expr? (fuel + 1) nested wide = do
          return .member (← expr? fuel true found) property := by
        simp [expr?, hnode, hname]
      rw [hread, expr?_of_widensTo object hobject hroom.1, Expr.isFinite]
      cases object.isFinite <;> rfl
  | array elements =>
      obtain ⟨fuel, rfl, hroom⟩ := exists_fuel_of_tagged_array hfuel
      obtain ⟨_, ⟨found, rfl, hfound⟩, hnode⟩ :=
        node?_of_widensTo_one exprKinds nested h rfl (by decide)
      have hread : expr? (fuel + 1) nested wide = do
          return .array (← found.mapM (nullable? (expr? fuel true))) := by
        simp [expr?, hnode, arrayOf?]
      rw [hread, exprElements?_of_widensTo elements hfound hroom, Expr.isFinite]
      cases Expr.elementsFinite elements <;> rfl
  | object properties =>
      obtain ⟨fuel, rfl, hroom⟩ := exists_fuel_of_tagged_array hfuel
      obtain ⟨_, ⟨found, rfl, hfound⟩, hnode⟩ :=
        node?_of_widensTo_one exprKinds nested h rfl (by decide)
      have hread : expr? (fuel + 1) nested wide = do
          return .object (← found.mapM (property? (expr? fuel true))) := by
        simp [expr?, hnode, arrayOf?]
      rw [hread, properties?_of_widensTo properties hfound hroom, Expr.isFinite]
      cases Expr.propertiesFinite properties <;> rfl
  | other node =>
      obtain ⟨fuel, rfl, -⟩ := exists_fuel_of_tagged hfuel
      obtain ⟨found, rfl, hnode⟩ := node?_of_widensTo_one exprKinds nested h rfl (by decide)
      simp [expr?, hnode, string?, Expr.isFinite]

theorem exprElements?_of_widensTo {fuel : Nat} {found : List Json} (elements : List (Option Expr))
    (h : ItemsWidenTo (Expr.elementsToJson elements) found)
    (hfuel : depth.itemsDepth (Expr.elementsToJson elements) ≤ fuel) :
    found.mapM (nullable? (expr? fuel true)) =
      if Expr.elementsFinite elements then some elements else none := by
  cases elements with
  | nil =>
      cases h
      rfl
  | cons element rest =>
      cases element with
      | none =>
          obtain ⟨_, more, rfl, rfl, hmore⟩ := h
          simp only [Expr.elementsToJson, depth.itemsDepth, Nat.max_le] at hfuel
          rw [List.mapM_cons, exprElements?_of_widensTo rest hmore hfuel.2, Expr.elementsFinite]
          cases Expr.elementsFinite rest <;> rfl
      | some element =>
          obtain ⟨first, more, rfl, hfirst, hmore⟩ := h
          simp only [Expr.elementsToJson, depth.itemsDepth, Nat.max_le] at hfuel
          have hnullable : nullable? (expr? fuel true) first =
              (expr? fuel true first).map some := by
            cases element <;> exact nullable?_of_widensTo hfirst
          rw [List.mapM_cons, hnullable, expr?_of_widensTo element hfirst hfuel.1,
            exprElements?_of_widensTo rest hmore hfuel.2, Expr.elementsFinite]
          cases element.isFinite <;> cases Expr.elementsFinite rest <;> rfl

theorem properties?_of_widensTo {fuel : Nat} {found : List Json}
    (properties : List (String × Expr))
    (h : ItemsWidenTo (Expr.propertiesToJson properties) found)
    (hfuel : depth.itemsDepth (Expr.propertiesToJson properties) ≤ fuel) :
    found.mapM (property? (expr? fuel true)) =
      if Expr.propertiesFinite properties then some properties else none := by
  cases properties with
  | nil =>
      cases h
      rfl
  | cons property rest =>
      obtain ⟨key, value⟩ := property
      obtain ⟨first, more, rfl, hfirst, hmore⟩ := h
      simp only [Expr.propertiesToJson, depth.itemsDepth, depth, depth.fieldsDepth,
        Nat.max_le] at hfuel
      obtain ⟨wide, hvalue, hproperty⟩ := property?_of_widensTo hfirst
      rw [List.mapM_cons, hproperty, expr?_of_widensTo value hvalue (by omega),
        properties?_of_widensTo rest hmore hfuel.2, Expr.propertiesFinite]
      cases value.isFinite <;> cases Expr.propertiesFinite rest <;> rfl

end

theorem statement?_of_widensTo {fuel : Nat} {wide : Json} (statement : Statement)
    (h : statement.toJson.WidensTo wide) (hfuel : statement.toJson.depth ≤ fuel) :
    statement? fuel wide = if statement.isFinite then some statement else none := by
  match statement with
  | .function params =>
      obtain ⟨n, hn, hroom⟩ := exists_fuel_of_tagged_array hfuel
      obtain ⟨_, ⟨found, rfl, hfound⟩, hnode⟩ :=
        node?_of_widensTo_one statementKinds false h rfl (by decide)
      have hread : statement? fuel wide = do
          return .function (← found.mapM (pattern? fuel true)) := by
        simp [statement?, hnode, arrayOf?]
      rw [hread, patterns?_of_widensTo params hfound (by omega), Statement.isFinite]
      cases Pattern.allFinite params <;> rfl
  | .variable none =>
      obtain ⟨_, rfl, hnode⟩ := node?_of_widensTo_one statementKinds false h rfl (by decide)
      simp [statement?, hnode, nullable?, Statement.isFinite]
  | .variable (some init) =>
      obtain ⟨n, hn, hroom⟩ := exists_fuel_of_tagged hfuel
      have hroom : init.toJson.depth ≤ n := (Nat.max_le.mp hroom).1
      obtain ⟨found, hfound, hnode⟩ :=
        node?_of_widensTo_one statementKinds false h rfl (by decide)
      have hnullable : nullable? (expr? fuel true) found = (expr? fuel true found).map some := by
        cases init <;> exact nullable?_of_widensTo hfound
      have hread : statement? fuel wide = do
          return .variable (← (expr? fuel true found).map some) := by
        simp [statement?, hnode, hnullable]
      rw [hread, expr?_of_widensTo init hfound (by omega), Statement.isFinite, Option.all_some]
      cases init.isFinite <;> rfl
  | .expression expr =>
      obtain ⟨n, hn, hroom⟩ := exists_fuel_of_tagged hfuel
      have hroom : expr.toJson.depth ≤ n := (Nat.max_le.mp hroom).1
      obtain ⟨found, hfound, hnode⟩ :=
        node?_of_widensTo_one statementKinds false h rfl (by decide)
      have hread : statement? fuel wide = do
          return .expression (← expr? fuel true found) := by
        simp [statement?, hnode]
      rw [hread, expr?_of_widensTo expr hfound (by omega), Statement.isFinite]
      cases expr.isFinite <;> rfl
  | .unsupported node =>
      obtain ⟨_, rfl, hnode⟩ := node?_of_widensTo_one statementKinds false h rfl (by decide)
      simp [statement?, hnode, string?, Statement.isFinite]

end Snippet

/-! ### Texts -/

section

variable {α : Type} {toJson : α → Json} {read : Json → Option α} {isFinite : α → Bool}

/-- What is read from every widened form of its own is read from every text of it. -/
theorem Json.decode_of_wideText
    (h : ∀ (a : α) {wide : Json}, (toJson a).WidensTo wide →
      read wide = if isFinite a then some a else none)
    {a : α} {text : String} (htext : (toJson a).WideText text) :
    (draft text).decode read = if isFinite a then .ok a else .error .shapeFault := by
  obtain ⟨wide, hread, hwide⟩ := htext
  rw [decode_of_ofText hread, h a hwide]
  cases isFinite a <;> rfl

end

variable {text : String}

theorem Statement.ofText_of_wideText {statement : Statement}
    (h : statement.toJson.WideText text) :
    ofText text = if statement.isFinite then .ok statement else .error .shapeFault :=
  Json.decode_of_wideText (fun s _ hwide => Snippet.statement?_of_widensTo s hwide hwide.depth_le) h

theorem Pattern.ofText_of_wideText {pattern : Pattern} (h : pattern.toJson.WideText text) :
    ofText text = if pattern.isFinite then .ok pattern else .error .shapeFault :=
  Json.decode_of_wideText (fun p _ hwide => Snippet.pattern?_of_widensTo p hwide hwide.depth_le) h

theorem PropertyPattern.ofText_of_wideText {property : PropertyPattern}
    (h : property.toJson.WideText text) :
    ofText text = if property.isFinite then .ok property else .error .shapeFault :=
  Json.decode_of_wideText
    (fun p _ hwide => Snippet.propertyPattern?_of_widensTo p hwide hwide.depth_le) h

theorem Expr.ofText_of_wideText {expr : Expr} (h : expr.toJson.WideText text) :
    ofText text = if expr.isFinite then .ok expr else .error .shapeFault :=
  Json.decode_of_wideText (fun e _ hwide => Snippet.expr?_of_widensTo e hwide hwide.depth_le) h

/-- A property is a record and not a node, so its text is decoded field by field. -/
theorem Expr.propertyOfText_of_wideText {property : String × Expr}
    (h : (Expr.propertyToJson property).WideText text) :
    propertyOfText text = if property.2.isFinite then .ok property else .error .shapeFault := by
  obtain ⟨key, value⟩ := property
  obtain ⟨wide, hread, hwide⟩ := h
  obtain ⟨kept, extra, all, rfl, ⟨-, -, rfl, rfl, found, -, rfl, hfound, rfl⟩, hextra, hperm⟩ :=
    hwide
  have hvalue : ofJson? found = if value.isFinite then some value else none :=
    Snippet.expr?_of_widensTo value hfound hfound.depth_le
  have hrecord := Json.recordFields?_of_perm
    (fun name value => if name = "key" then value.string?.isSome else (ofJson? value).isSome)
    hperm (by simp) hextra
  simp only [Entries.keys, List.map_cons, List.map_nil] at hrecord
  simp only [propertyOfText, Json.draft_of_ofText hread, Json.Draft.decodeRecord, hrecord]
  cases hfinite : value.isFinite with
  | false =>
      simp [hvalue, hfinite, Json.string?, bind, Except.bind]
  | true =>
      have hfinish : Json.Draft.decodeRecord.finish ⟨some (.object all), .complete⟩ true
          [some (.string key), some found] = .ok [some (.string key), some found] := rfl
      simp [hvalue, hfinite, Json.string?, hfinish, bind, Except.bind, pure, Except.pure]

/-- Things with finite numbers only are read back from their compact text, unless it is nested too
deep, and from every other text that holds what their form holds. -/
def Json.Lossless {α : Type} (toJson : α → Json) (isFinite : α → Bool)
    (ofText : String → Except Json.Error α) : Prop :=
  ∀ a, isFinite a = true →
    ((toJson a).depth ≤ maxDepth → ofText (toJson a).compact = .ok a) ∧
      ∀ text, (toJson a).WideText text → ofText text = .ok a

theorem Json.lossless_of_wideText {α : Type} {toJson : α → Json} {isFinite : α → Bool}
    {ofText : String → Except Json.Error α}
    (h : ∀ {a : α} {text : String}, (toJson a).WideText text →
      ofText text = if isFinite a then .ok a else .error .shapeFault) :
    Lossless toJson isFinite ofText := by
  intro a hfinite
  have hwide {text : String} (htext : (toJson a).WideText text) : ofText text = .ok a := by
    rw [h htext, if_pos hfinite]
  exact ⟨fun hdepth => hwide (wideText_compact (widensTo_self _) hdepth), fun _ => hwide⟩

/-- The JSON form of snippets loses nothing. Every kind of tree with finite numbers is read back as
it was, from its own text and from each text that has the fields in another order or other fields
beside them, at any depth. -/
theorem Snippet.lossless_toJson :
    Json.Lossless Statement.toJson Statement.isFinite Statement.ofText ∧
      Json.Lossless Pattern.toJson Pattern.isFinite Pattern.ofText ∧
      Json.Lossless PropertyPattern.toJson PropertyPattern.isFinite PropertyPattern.ofText ∧
      Json.Lossless Expr.toJson Expr.isFinite Expr.ofText ∧
      Json.Lossless Expr.propertyToJson (fun property => property.2.isFinite)
        Expr.propertyOfText := by
  refine ⟨?_, ?_, ?_, ?_, ?_⟩
  · exact Json.lossless_of_wideText Statement.ofText_of_wideText
  · exact Json.lossless_of_wideText Pattern.ofText_of_wideText
  · exact Json.lossless_of_wideText PropertyPattern.ofText_of_wideText
  · exact Json.lossless_of_wideText Expr.ofText_of_wideText
  · exact Json.lossless_of_wideText Expr.propertyOfText_of_wideText

/-- The form of the declaration of an array with a hole, with its fields in another order and with a
field that no declaration has. -/
def Snippet.reordered : Json :=
  .object [("note", .array [.null]),
    ("init", .object
      [("elements", .array [.null, .object [("kind", .string "literal"), ("value", .bool true)]]),
        ("kind", .string "array_literal")]),
    ("kind", .string "variable_declaration")]

/-- The declaration is read from this form, and a parameter with negative zero as its default from
its own text. -/
theorem Snippet.lossless_toJson_reordered :
    Statement.ofText reordered.compact =
      .ok (.variable (some (.array [none, some (.literal (.bool true))]))) ∧
    Pattern.ofText (Pattern.assignment (.identifier "a")
        (.literal (.number (Binary64.zero true)))).toJson.compact =
      .ok (.assignment (.identifier "a") (.literal (.number (Binary64.zero true)))) := by
  have hwide : (Statement.variable (some (.array
      [none, some (.literal (.bool true))]))).toJson.WidensTo reordered := by
    refine ⟨[("kind", _), ("init", _)], [("note", .array [.null])], _, rfl,
      ⟨_, _, rfl, rfl, _, _, rfl, ?_, rfl⟩, by simp, List.reverse_perm [_, _, _]⟩
    refine ⟨[("kind", _), ("elements", _)], [], _, rfl,
      ⟨_, _, rfl, rfl, _, _, rfl, Json.widensTo_self _, rfl⟩, by simp, List.reverse_perm [_, _]⟩
  obtain ⟨hstatement, hpattern, -⟩ := lossless_toJson
  constructor
  · exact (hstatement _ (by decide)).2 _ (Json.wideText_compact hwide (by decide))
  · exact (hpattern _ (by decide)).1 (by decide)

end SnippetBridge
