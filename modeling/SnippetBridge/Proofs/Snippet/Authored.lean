import SnippetBridge.Proofs.Snippet.Contents

/-!
Values that are written as expressions. A scalar is written as a literal, an array and an object as
one that holds what their parts are written as, and a reference as a chain of members. What can be
written in this way at all has the value that was written: the value has to be known throughout, and
its references have to have a dot in their path, since a chain needs a member.
-/

namespace SnippetBridge

namespace Expr

mutual

/-- The expression that a value is written as. There is no literal for `null`; it is written as a
node of another kind, and so is what is not known. -/
def ofValue (node : String) : Value → Expr
  | .null => .other node
  | .bool b => .bool b
  | .number x => .number x
  | .string s => .string s
  | .array items => .ofItems (ofValues node items)
  | .object entries => .object (ofEntries node entries)
  | .reference path => .ofPath path
  | .unknown => .other node

def ofValues (node : String) : List Value → List Expr
  | [] => []
  | item :: rest => ofValue node item :: ofValues node rest

def ofEntries (node : String) : List (String × Value) → List (String × Expr)
  | [] => []
  | (key, value) :: rest => (key, ofValue node value) :: ofEntries node rest

end

theorem ofValues_eq_map (node : String) (items : List Value) :
    ofValues node items = items.map (ofValue node) := by
  induction items with
  | nil => rfl
  | cons item rest ih => rw [ofValues, ih, List.map_cons]

theorem ofEntries_eq_mapValues (node : String) (entries : List (String × Value)) :
    ofEntries node entries = Entries.mapValues (ofValue node) entries := by
  induction entries with
  | nil => rfl
  | cons entry rest ih =>
      rw [ofEntries, ih]
      rfl

/-! ### Values of what is built -/

theorem value_ofItems (items : List Expr) : (ofItems items).value = .array (items.map value) := by
  rw [ofItems, value]
  congr 1
  induction items with
  | nil => rfl
  | cons item rest ih => rw [List.map_cons, elementValues, ih, List.map_cons]

theorem propertyValues_eq_mapValues (properties : List (String × Expr)) :
    propertyValues properties = Entries.mapValues value properties := by
  induction properties with
  | nil => rfl
  | cons property rest ih =>
      rw [propertyValues, ih]
      rfl

theorem value_object {properties : List (String × Expr)}
    (hkeys : (Entries.keys properties).Nodup) :
    (Expr.object properties).value = .object (Entries.mapValues value properties) := by
  have hnodup : (Entries.keys (Entries.mapValues value properties)).Nodup := by
    rwa [Entries.keys_mapValues]
  rw [value, propertyValues_eq_mapValues, Value.ofEntries, Entries.ofList_of_nodup hnodup]

/-- A chain with a member has the names of its links, with dots between them, for its path. -/
theorem value_of_names? {expr : Expr} {names : List String} (h : expr.names? = some names)
    (hlength : 2 ≤ names.length) : expr.value = .reference (".".intercalate names) := by
  cases expr with
  | member target property => rw [value, path?_eq_map_names?, h]; rfl
  | identifier name =>
      obtain rfl := Option.some.inj h
      simp at hlength
  | _ => cases h

/-! ### Chains of dotted paths -/

theorem names?_foldl {target : Expr} {front : List String} (h : target.names? = some front)
    (properties : List (List Char)) :
    (properties.foldl (fun target property => .member target (some (String.ofList property)))
        target).names? =
      some (front ++ properties.map String.ofList) := by
  induction properties generalizing target front with
  | nil => simpa using h
  | cons property rest ih =>
      have hmember : (Expr.member target (some (String.ofList property))).names? =
          some (front ++ [String.ofList property]) := by
        rw [names?, h, Option.map_some]
      rw [List.foldl_cons, ih hmember, List.map_cons, List.append_assoc, List.singleton_append]

/-- The links of the chain that a path spells are the segments of the path. -/
theorem names?_ofPath (path : String) :
    (ofPath path).names? = some ((DottedPath.segments path).map String.ofList) := by
  have hroot : (Expr.identifier (String.ofList (DottedPath.split path.toList).1)).names? =
      some [String.ofList (DottedPath.split path.toList).1] := rfl
  exact names?_foldl hroot _

end Expr

namespace DottedPath

theorem segments_eq_splitOn (path : String) : segments path = path.toList.splitOn '.' :=
  split_eq_splitOn path.toList

/-- Segments are joined again by dots. -/
theorem intercalate_segments (path : String) :
    ".".intercalate ((segments path).map String.ofList) = path := by
  rw [← String.toList_inj, String.toList_intercalate, List.map_map]
  have hchars : (segments path).map (String.toList ∘ String.ofList) = segments path := by
    simp [Function.comp_def]
  rw [hchars, segments_eq_splitOn]
  exact List.intercalate_splitOn '.'

theorem two_le_length_segments {path : String} (h : '.' ∈ path.toList) :
    2 ≤ (segments path).length := by
  obtain ⟨front, back, hpath⟩ := List.append_of_mem h
  rw [segments, hpath, split_append_dot]
  simp only [List.length_cons, List.length_append]
  omega

end DottedPath

theorem Expr.value_ofPath {path : String} (h : '.' ∈ path.toList) :
    (ofPath path).value = .reference path := by
  have hlength : 2 ≤ ((DottedPath.segments path).map String.ofList).length := by
    rw [List.length_map]
    exact DottedPath.two_le_length_segments h
  rw [value_of_names? (names?_ofPath path) hlength, DottedPath.intercalate_segments]

/-! ### Written values -/

theorem Expr.sound_value_dotted (expr : Expr) : expr.value.Sound ('.' ∈ ·.toList) :=
  expr.sound_value fun _ hnames => dot_mem_intercalate hnames.two_le_length

theorem Expr.value_ofValue {v : Value} (node : String) (hsound : v.Sound ('.' ∈ ·.toList))
    (hknown : ¬Value.unknown.PartOf v) : (ofValue node v).value = v := by
  induction v using Value.nested_induction with
  | array items ih =>
      have hitems : ∀ item ∈ items, (ofValue node item).value = item := fun item hitem =>
        ih item hitem (Value.sound_array.mp hsound item hitem) fun hpart =>
          hknown (.item hitem hpart)
      rw [ofValue, value_ofItems, ofValues_eq_map, List.map_map]
      exact congrArg Value.array ((List.map_congr_left hitems).trans (List.map_id items))
  | object entries ih =>
      obtain ⟨hkeys, hentries⟩ := Value.sound_object.mp hsound
      have hvalues : ∀ entry ∈ entries, (entry.1, (ofValue node entry.2).value) = entry := by
        intro entry hentry
        rw [ih entry hentry (hentries entry hentry) fun hpart => hknown (.entry hentry hpart)]
      have hbuilt : (Entries.keys (Entries.mapValues (ofValue node) entries)).Nodup := by
        rwa [Entries.keys_mapValues]
      rw [ofValue, ofEntries_eq_mapValues, value_object hbuilt, Entries.mapValues,
        Entries.mapValues, List.map_map]
      exact congrArg Value.object ((List.map_congr_left hvalues).trans (List.map_id entries))
  | scalar v hitems hentries =>
      cases v with
      | reference path => exact value_ofPath (Value.sound_reference.mp hsound)
      | unknown => exact absurd (.refl _) hknown
      | array items => cases hitems
      | object entries => cases hentries
      | _ => rfl

/-- The expression that a value is written as has that very value, with the entries of all objects
in their order, exactly if the value is known throughout and all its references have a dot in their
path. -/
theorem Expr.value_ofValue_iff (node : String) (v : Value) :
    (ofValue node v).value = v ↔ v.Sound ('.' ∈ ·.toList) ∧ ¬Value.unknown.PartOf v := by
  constructor
  · intro h
    have hsound := (ofValue node v).sound_value_dotted
    have hdrawn := (ofValue node v).drawnFrom_value (List.Subset.refl _)
    rw [h] at hsound hdrawn
    exact ⟨hsound, hdrawn.known⟩
  · rintro ⟨hsound, hknown⟩
    exact value_ofValue node hsound hknown

example :
    let v : Value := .object [("b", .reference "p..q"), ("a", .array [.null, .string "p.q"])]
    (Expr.ofValue "null" v).value = v := by
  decide +kernel

end SnippetBridge
