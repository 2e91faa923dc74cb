import SnippetBridge.Proofs.Binary64.Integer
import SnippetBridge.Proofs.Value.Normal

/-!
Documents that are decoded and encoded again. A document keeps its keys, their order, its strings
and its references, whether their paths are well formed or not; only its numbers are written anew,
in the canonical form of the double nearest to them. So nothing changes when it is done a second
time.
-/

namespace SnippetBridge

open Binary64

namespace Json

/-! ### Canonical numbers -/

namespace Number

/-- No number of a document is too large for a double. -/
theorem isFinite_toBinary64 (n : Number) : n.toBinary64.isFinite = true := by
  cases n with
  | integer value fits =>
      obtain ⟨hlow, hhigh⟩ := fits
      exact isFinite_ofInt (by omega)
  | decimal x finite => exact finite

/-- The canonical form of the double nearest to a number: an integer if the double is integral and
its magnitude below `2 ^ 53`, else the double itself. -/
def canonical (n : Number) : Number :=
  match h : n.toBinary64.safeInteger? with
  | some value => .integer value (Value.fitsWord_of_safe h)
  | none => .decimal n.toBinary64 n.isFinite_toBinary64

variable {m n : Number}

theorem canonical_of_some {value : Int} (h : n.toBinary64.safeInteger? = some value) :
    n.canonical = .integer value (Value.fitsWord_of_safe h) := by
  rw [canonical]
  split
  · next value' h' =>
      obtain rfl := Option.some.inj (h'.symm.trans h)
      rfl
  · next h' => simp [h] at h'

theorem canonical_of_none (h : n.toBinary64.safeInteger? = none) :
    n.canonical = .decimal n.toBinary64 n.isFinite_toBinary64 := by
  rw [canonical]
  split
  · next value h' => simp [h] at h'
  · rfl

/-- The canonical form is an integer exactly if the nearest double is one below `2 ^ 53`, zeros
taken as one. -/
theorem canonical_cases (n : Number) :
    (∃ value fits, n.canonical = .integer value fits ∧ value.natAbs < 2 ^ 53 ∧
        n.toBinary64.unsignedZero = ofInt value) ∨
      n.canonical = .decimal n.toBinary64 n.isFinite_toBinary64 ∧
        ∀ value : Int, value.natAbs < 2 ^ 53 → n.toBinary64.unsignedZero ≠ ofInt value := by
  cases h : n.toBinary64.safeInteger? with
  | some value => exact .inl ⟨value, _, canonical_of_some h, safeInteger?_eq_some_iff.mp h⟩
  | none =>
      refine .inr ⟨canonical_of_none h, fun value hsmall hvalue => ?_⟩
      have hsome := safeInteger?_eq_some_iff.mpr ⟨hsmall, hvalue⟩
      simp [h] at hsome

/-- The canonical form denotes the same double, but for the sign of a zero. -/
theorem toBinary64_canonical (n : Number) : n.canonical.toBinary64 = n.toBinary64.unsignedZero := by
  cases h : n.toBinary64.safeInteger? with
  | some value =>
      rw [canonical_of_some h]
      exact ofInt_of_safeInteger? h
  | none =>
      rw [canonical_of_none h]
      exact (Value.unsignedZero_of_safeInteger?_eq_none h).symm

theorem canonical_canonical (n : Number) : n.canonical.canonical = n.canonical := by
  have hinteger : n.canonical.toBinary64.safeInteger? = n.toBinary64.safeInteger? := by
    rw [toBinary64_canonical, safeInteger?_unsignedZero]
  cases h : n.toBinary64.safeInteger? with
  | some value =>
      exact (canonical_of_some (hinteger.trans h)).trans (canonical_of_some h).symm
  | none =>
      have hself : n.canonical.toBinary64 = n.toBinary64 := by
        rw [toBinary64_canonical, Value.unsignedZero_of_safeInteger?_eq_none h]
      calc
        n.canonical.canonical
            = .decimal n.canonical.toBinary64 n.canonical.isFinite_toBinary64 :=
          canonical_of_none (hinteger.trans h)
        _ = .decimal n.toBinary64 n.isFinite_toBinary64 := by simp only [hself]
        _ = n.canonical := (canonical_of_none h).symm

end Number

/-! ### Canonical documents -/

mutual

/-- A document with all its numbers in canonical form. -/
def canonical : Json → Json
  | .number n => .number n.canonical
  | .array items => .array (canonicalItems items)
  | .object fields => .object (canonicalFields fields)
  | json => json

def canonicalItems : List Json → List Json
  | [] => []
  | item :: rest => canonical item :: canonicalItems rest

def canonicalFields : List (String × Json) → List (String × Json)
  | [] => []
  | (key, value) :: rest => (key, canonical value) :: canonicalFields rest

end

mutual

/-- No object of a document repeats a key. -/
def DistinctKeys : Json → Prop
  | .array items => ItemsDistinctKeys items
  | .object fields => (Entries.keys fields).Nodup ∧ FieldsDistinctKeys fields
  | _ => True

def ItemsDistinctKeys : List Json → Prop
  | [] => True
  | item :: rest => DistinctKeys item ∧ ItemsDistinctKeys rest

def FieldsDistinctKeys : List (String × Json) → Prop
  | [] => True
  | (_, value) :: rest => DistinctKeys value ∧ FieldsDistinctKeys rest

end

theorem keys_canonicalFields (fields : List (String × Json)) :
    Entries.keys (canonicalFields fields) = Entries.keys fields := by
  induction fields with
  | nil => rfl
  | cons field rest ih => simp [canonicalFields, ih]

mutual

theorem canonical_canonical (json : Json) : json.canonical.canonical = json.canonical := by
  cases json with
  | number n => simp only [canonical, n.canonical_canonical]
  | array items => simp only [canonical, canonicalItems_canonicalItems items]
  | object fields => simp only [canonical, canonicalFields_canonicalFields fields]
  | _ => rfl

theorem canonicalItems_canonicalItems (items : List Json) :
    canonicalItems (canonicalItems items) = canonicalItems items := by
  cases items with
  | nil => rfl
  | cons item rest =>
      simp only [canonicalItems, canonical_canonical item, canonicalItems_canonicalItems rest]

theorem canonicalFields_canonicalFields (fields : List (String × Json)) :
    canonicalFields (canonicalFields fields) = canonicalFields fields := by
  cases fields with
  | nil => rfl
  | cons field rest =>
      simp only [canonicalFields, canonical_canonical field.2,
        canonicalFields_canonicalFields rest]

end

mutual

theorem DistinctKeys.canonical {json : Json} (h : json.DistinctKeys) :
    json.canonical.DistinctKeys := by
  cases json with
  | array items => exact ItemsDistinctKeys.canonical h
  | object fields =>
      exact ⟨(keys_canonicalFields fields).symm ▸ h.1, FieldsDistinctKeys.canonical h.2⟩
  | _ => exact h

theorem ItemsDistinctKeys.canonical {items : List Json} (h : ItemsDistinctKeys items) :
    ItemsDistinctKeys (canonicalItems items) := by
  cases items with
  | nil => exact h
  | cons item rest => exact ⟨h.1.canonical, ItemsDistinctKeys.canonical h.2⟩

theorem FieldsDistinctKeys.canonical {fields : List (String × Json)}
    (h : FieldsDistinctKeys fields) : FieldsDistinctKeys (canonicalFields fields) := by
  cases fields with
  | nil => exact h
  | cons field rest => exact ⟨h.1.canonical, FieldsDistinctKeys.canonical h.2⟩

end

end Json

/-! ### Decoding and encoding -/

namespace Value

open Json

theorem numberJson_toBinary64 (n : Number) : numberJson n.toBinary64 = .number n.canonical := by
  rw [numberJson]
  split
  · next value h => rw [Number.canonical_of_some h]
  · next h => rw [Number.canonical_of_none h, dif_pos n.isFinite_toBinary64]

theorem ofJson_eq_string_iff {json : Json} {s : String} :
    ofJson json = .string s ↔ json = .string s := by
  cases json with
  | object fields =>
      rw [ofJson, ofFields]
      split
      · split <;> simp
      · simp
  | _ => simp [ofJson]

theorem keys_fieldsOfJson (fields : List (String × Json)) :
    Entries.keys (fieldsOfJson fields) = Entries.keys fields := by
  induction fields with
  | nil => rfl
  | cons field rest ih => simp [fieldsOfJson, ih]

/-- Fields spell a reference in a document when they do so in the value. -/
theorem eq_of_fieldsOfJson_eq {fields : List (String × Json)} {key path : String}
    (h : fieldsOfJson fields = [(key, .string path)]) : fields = [(key, .string path)] := by
  match fields with
  | [] => simp [fieldsOfJson] at h
  | [(key', json)] => simpa [fieldsOfJson, ofJson_eq_string_iff] using h
  | _ :: _ :: _ => simp [fieldsOfJson] at h

mutual

theorem toJson_ofJson (json : Json) (h : json.DistinctKeys) :
    (ofJson json).toJson = json.canonical := by
  cases json with
  | null => rfl
  | bool b => rfl
  | number n => exact numberJson_toBinary64 n
  | string s => rfl
  | array items => simp only [ofJson, toJson, canonical, itemsToJson_itemsOfJson items h]
  | object fields =>
      have hkeys : (Entries.keys (fieldsOfJson fields)).Nodup := by
        rw [keys_fieldsOfJson]
        exact h.1
      rw [ofJson, ofFields_eq hkeys]
      cases hspelled : spelledPath? (fieldsOfJson fields) with
      | some path =>
          -- A reference is written as the object that it was read from.
          obtain ⟨hfields, -⟩ := spelledPath?_eq_some_iff.mp hspelled
          rw [eq_of_fieldsOfJson_eq hfields]
          rfl
      | none => simp only [toJson, canonical, entriesToJson_fieldsOfJson fields h.2]

theorem itemsToJson_itemsOfJson (items : List Json) (h : ItemsDistinctKeys items) :
    itemsToJson (itemsOfJson items) = canonicalItems items := by
  cases items with
  | nil => rfl
  | cons item rest =>
      simp only [itemsOfJson, itemsToJson, canonicalItems, toJson_ofJson item h.1,
        itemsToJson_itemsOfJson rest h.2]

theorem entriesToJson_fieldsOfJson (fields : List (String × Json)) (h : FieldsDistinctKeys fields) :
    entriesToJson (fieldsOfJson fields) = canonicalFields fields := by
  cases fields with
  | nil => rfl
  | cons field rest =>
      simp only [fieldsOfJson, entriesToJson, canonicalFields, toJson_ofJson field.2 h.1,
        entriesToJson_fieldsOfJson rest h.2]

end

/-- Decoding a document and encoding it again puts its numbers into canonical form and changes
nothing else; doing so a second time changes nothing at all. The canonical form of a number is that
of the nearest double: the integer that it is, if there is one below `2 ^ 53`, or the double. -/
theorem json_form_of_read {json : Json} (h : json.DistinctKeys) :
    (ofJson json).toJson = json.canonical ∧
      (ofJson (ofJson json).toJson).toJson = (ofJson json).toJson ∧
      ∀ n : Number,
        (∃ value fits, n.canonical = .integer value fits ∧ value.natAbs < 2 ^ 53 ∧
            n.toBinary64.unsignedZero = ofInt value) ∨
          n.canonical = .decimal n.toBinary64 n.isFinite_toBinary64 ∧
            ∀ value : Int, value.natAbs < 2 ^ 53 → n.toBinary64.unsignedZero ≠ ofInt value := by
  refine ⟨toJson_ofJson json h, ?_, Number.canonical_cases⟩
  rw [toJson_ofJson json h, toJson_ofJson _ h.canonical, canonical_canonical]

/-- References with good and bad paths, a zero with a sign, and an integer that is written as a
double. -/
theorem json_form_of_read_mixed :
    ∃ fits fits' finite,
      (Json.object [("b", .object [("$ref", .string "app.id")]),
          ("$ref", .array [.object [("$ref", .string "app.")], .number (.decimal (.zero true) rfl),
            .number (.integer 9007199254740992 fits)])]).DistinctKeys ∧
        (ofJson (.object [("b", .object [("$ref", .string "app.id")]),
          ("$ref", .array [.object [("$ref", .string "app.")], .number (.decimal (.zero true) rfl),
            .number (.integer 9007199254740992 fits)])])).toJson =
          .object [("b", .object [("$ref", .string "app.id")]),
            ("$ref", .array [.object [("$ref", .string "app.")], .number (.integer 0 fits'),
              .number (.decimal (ofInt 9007199254740992) finite)])] := by
  have hzero : (Number.decimal (.zero true) rfl).canonical = .integer 0 (by decide) :=
    Number.canonical_of_some (by decide +kernel)
  have hlarge : (Number.integer 9007199254740992 (by decide)).canonical =
      .decimal (ofInt 9007199254740992) (by decide +kernel) :=
    Number.canonical_of_none (by decide +kernel)
  refine ⟨by decide, by decide, by decide +kernel, ?_⟩
  have hdistinct : (Json.object [("b", .object [("$ref", .string "app.id")]),
      ("$ref", .array [.object [("$ref", .string "app.")], .number (.decimal (.zero true) rfl),
        .number (.integer 9007199254740992 (by decide))])]).DistinctKeys := by
    simp [DistinctKeys, FieldsDistinctKeys, ItemsDistinctKeys]
  refine ⟨hdistinct, (json_form_of_read hdistinct).1.trans ?_⟩
  simp only [canonical, canonicalFields, canonicalItems, hzero, hlarge]

end Value

end SnippetBridge
