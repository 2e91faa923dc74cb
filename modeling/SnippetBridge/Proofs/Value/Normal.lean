import SnippetBridge.Proofs.Binary64.Rounding
import SnippetBridge.Proofs.Value.WellFormed
import SnippetBridge.Value.Json

/-!
Which values survive the way through JSON. The JSON form has no room for `unknown`, for numbers
that are not finite and for the sign of a zero, and it cannot tell a reference from an object that
looks like one. `normal` says what comes back; the main statement is that nothing else changes.
-/

namespace SnippetBridge.Value

/-- The path that entries spell when they are `$ref` with a well-formed path and nothing else. -/
def spelledPath? : List (String × Value) → Option String
  | [(key, .string path)] =>
    if key = referenceKey ∧ DottedPath.isWellFormed path then some path else none
  | _ => none

mutual

/-- What is left of a value after it was written as JSON and read again. -/
def normal : Value → Value
  | .null => .null
  | .bool b => .bool b
  | .number x => if x.isFinite then .number x.unsignedZero else .null
  | .string s => .string s
  | .array items => .array (normalItems items)
  | .object entries =>
    match spelledPath? entries with
    | some path => .reference path
    | none => .object (normalEntries entries)
  | .reference path =>
    if DottedPath.isWellFormed path then .reference path
    else .object [(referenceKey, .string path)]
  | .unknown => .null

def normalItems : List Value → List Value
  | [] => []
  | item :: rest => normal item :: normalItems rest

def normalEntries : List (String × Value) → List (String × Value)
  | [] => []
  | (key, value) :: rest => (key, normal value) :: normalEntries rest

end

theorem spelledPath?_eq_some_iff {entries : List (String × Value)} {path : String} :
    spelledPath? entries = some path ↔
      entries = [(referenceKey, .string path)] ∧ DottedPath.isWellFormed path := by
  rw [spelledPath?.eq_def]
  split
  · rename_i key other
    simp only [Option.ite_none_right_eq_some, Option.some.injEq, List.cons.injEq, Prod.mk.injEq,
      Value.string.injEq, and_true]
    constructor
    · rintro ⟨⟨rfl, hpath⟩, rfl⟩
      exact ⟨⟨rfl, rfl⟩, hpath⟩
    · rintro ⟨⟨rfl, rfl⟩, hpath⟩
      exact ⟨⟨rfl, hpath⟩, rfl⟩
  · rename_i hother
    simp only [reduceCtorEq, false_iff, not_and]
    intro hentries
    exact absurd hentries (hother referenceKey path)

theorem ofFields_eq {entries : List (String × Value)} (h : (Entries.keys entries).Nodup) :
    ofFields entries =
      match spelledPath? entries with
      | some path => .reference path
      | none => .object entries := by
  rw [ofFields, Entries.ofList_of_nodup h]
  split
  · simp only [spelledPath?]
    split <;> rfl
  · rename_i hother
    have hnone : spelledPath? entries = none := by
      rw [Option.eq_none_iff_forall_ne_some]
      intro path hpath
      exact hother referenceKey path (spelledPath?_eq_some_iff.mp hpath).1
    rw [hnone]

/-! ### What the normal form keeps -/

theorem normal_eq_string_iff {v : Value} {s : String} : v.normal = .string s ↔ v = .string s := by
  cases v with
  | number x => simp only [normal]; split <;> simp
  | object entries => simp only [normal]; split <;> simp
  | reference path => simp only [normal]; split <;> simp
  | _ => simp [normal]

theorem keys_normalEntries (entries : List (String × Value)) :
    Entries.keys (normalEntries entries) = Entries.keys entries := by
  induction entries with
  | nil => rfl
  | cons entry rest ih => simp [normalEntries, ih]

/-- Whether an object looks like a reference does not change with what is inside of it. -/
theorem spelledPath?_normalEntries (entries : List (String × Value)) :
    spelledPath? (normalEntries entries) = spelledPath? entries := by
  ext path
  rw [spelledPath?_eq_some_iff, spelledPath?_eq_some_iff]
  refine and_congr_left fun _ => ?_
  match entries with
  | [] => simp [normalEntries]
  | [(key, value)] => simp [normalEntries, normal_eq_string_iff]
  | _ :: _ :: _ => simp [normalEntries]

/-! ### Reading the JSON form -/

theorem unsignedZero_of_safeInteger?_eq_none {x : Binary64} (h : x.safeInteger? = none) :
    x.unsignedZero = x := by
  cases x with
  | nan => rfl
  | infinite negative => rfl
  | finite negative units hrep =>
      simp only [Binary64.unsignedZero, ite_eq_right_iff]
      rintro rfl
      have hpos : 0 < 9007199254740992 * Binary64.one := Nat.mul_pos (by decide) Binary64.one_pos
      simp [Binary64.safeInteger?, hpos] at h

theorem ofJson_numberJson (x : Binary64) : ofJson (numberJson x) = (Value.number x).normal := by
  rw [numberJson, normal]
  split
  · rename_i n hn
    rw [if_pos (Binary64.isFinite_of_safeInteger? hn), ← Binary64.ofInt_of_safeInteger? hn]
    rfl
  · rename_i hnone
    rw [unsignedZero_of_safeInteger?_eq_none hnone]
    split <;> rfl

theorem ofJson_reference (path : String) :
    ofJson (.object [(referenceKey, .string path)]) = (Value.reference path).normal := by
  show ofFields [(referenceKey, .string path)] = _
  rw [ofFields_eq (by simp), normal]
  by_cases hpath : DottedPath.isWellFormed path = true
  · simp [spelledPath?, hpath]
  · simp [spelledPath?, hpath]

mutual

theorem ofJson_toJson (v : Value) (hv : v.WellFormed) : ofJson v.toJson = v.normal := by
  cases v with
  | null => rfl
  | bool b => rfl
  | number x => exact ofJson_numberJson x
  | string s => rfl
  | array items =>
      simp only [toJson, ofJson, normal, itemsOfJson_itemsToJson items hv]
  | object entries =>
      -- Reading keeps every key, so the keys stay distinct and no entry is dropped.
      have hkeys : (Entries.keys (normalEntries entries)).Nodup := by
        rw [keys_normalEntries]
        exact hv.1
      simp only [toJson, ofJson, normal, fieldsOfJson_entriesToJson entries hv.2,
        ofFields_eq hkeys, spelledPath?_normalEntries]
  | reference path => exact ofJson_reference path
  | unknown => rfl

theorem itemsOfJson_itemsToJson (items : List Value) (hitems : AllWellFormed items) :
    itemsOfJson (itemsToJson items) = normalItems items := by
  cases items with
  | nil => rfl
  | cons item rest =>
      simp only [itemsToJson, itemsOfJson, normalItems, ofJson_toJson item hitems.1,
        itemsOfJson_itemsToJson rest hitems.2]

theorem fieldsOfJson_entriesToJson (entries : List (String × Value))
    (hentries : EntriesWellFormed entries) :
    fieldsOfJson (entriesToJson entries) = normalEntries entries := by
  cases entries with
  | nil => rfl
  | cons entry rest =>
      obtain ⟨key, value⟩ := entry
      simp only [entriesToJson, fieldsOfJson, normalEntries, ofJson_toJson value hentries.1,
        fieldsOfJson_entriesToJson rest hentries.2]

end

/-- Dropping the sign of a zero keeps the numeric value; no other double changes. -/
theorem unsignedZero_of_isFinite {x : Binary64} (hfinite : x.isFinite) :
    x.unsignedZero.same x ∧ (x.unsignedZero ≠ x ↔ x = .zero true) := by
  obtain ⟨negative, units, hrep, rfl⟩ := Binary64.exists_of_isFinite hfinite
  by_cases hunits : units = 0
  · subst hunits
    cases negative <;> simp [Binary64.unsignedZero, Binary64.same, Binary64.zero]
  · simp [Binary64.unsignedZero, Binary64.same, Binary64.zero, hunits]

/-- Writing a value as JSON and reading it again gives its normal form, with all entries in their
order. Its numbers keep their numeric value: the only double that changes is the negative zero. -/
theorem read_json_form {v : Value} (hv : v.WellFormed) :
    ofJson v.toJson = v.normal ∧
      ∀ x : Binary64, x.isFinite →
        x.unsignedZero.same x ∧ (x.unsignedZero ≠ x ↔ x = .zero true) :=
  ⟨ofJson_toJson v hv, fun _ hfinite => unsignedZero_of_isFinite hfinite⟩

/-- An object that looks like a reference comes back as one, and a reference whose path is not well
formed comes back as an object. -/
theorem read_json_form_of_lookalikes :
    (Value.object [("b", .object [("$ref", .string "app.id")]), ("a", .reference "app.0"),
        ("$ref", .array [.unknown, .number (.zero true)])]).WellFormed ∧
      ofJson (Value.object [("b", .object [("$ref", .string "app.id")]), ("a", .reference "app.0"),
        ("$ref", .array [.unknown, .number (.zero true)])]).toJson =
      .object [("b", .reference "app.id"), ("a", .object [("$ref", .string "app.0")]),
        ("$ref", .array [.null, .number (.zero false)])] := by
  have hv : (Value.object [("b", .object [("$ref", .string "app.id")]), ("a", .reference "app.0"),
      ("$ref", .array [.unknown, .number (.zero true)])]).WellFormed := by
    simp [WellFormed, EntriesWellFormed, AllWellFormed]
  have hgood : DottedPath.isWellFormed "app.id" = true := by decide +kernel
  have hbad : DottedPath.isWellFormed "app.0" = false := by decide +kernel
  refine ⟨hv, (read_json_form hv).1.trans ?_⟩
  simp [normal, normalEntries, normalItems, spelledPath?, referenceKey, hgood, hbad,
    Binary64.isFinite, Binary64.zero, Binary64.unsignedZero]

end SnippetBridge.Value
