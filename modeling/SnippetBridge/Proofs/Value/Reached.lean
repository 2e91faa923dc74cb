import SnippetBridge.Proofs.Value.Decidable
import SnippetBridge.Proofs.Value.WellFormed
import SnippetBridge.Value.Text

/-!
Values that are made step by step from `null`: decoded, referred to, merged, wrapped, taken apart
and sent through JSON. Each of these steps keeps values sound, with paths of names in all
references; so what is made in any number of steps is sound.
-/

namespace SnippetBridge.Value

open DottedPath

/-! ### What each operation gives -/

theorem sound_reference? {path : String} {v : Value} (h : reference? path = .ok v) :
    v.Sound JoinsNames := by
  obtain ⟨hpath, rfl⟩ := reference?_eq_ok_iff.mp h
  exact sound_reference.mpr hpath

/-- Fields give the reference that they spell, with a path of names, or the object of themselves. -/
theorem ofFields_cases (fields : List (String × Value)) :
    (∃ path, JoinsNames path ∧ Entries.ofList fields = [(referenceKey, .string path)] ∧
        ofFields fields = .reference path) ∨
      ofFields fields = ofEntries fields := by
  rw [ofFields, ofEntries]
  split
  next key path heq =>
    split
    next h =>
      obtain ⟨rfl, hpath⟩ := h
      exact .inl ⟨path, isWellFormed_iff.mp hpath, heq, rfl⟩
    next => exact .inr (by rw [heq])
  next => exact .inr rfl

theorem sound_ofFields {fields : List (String × Value)}
    (h : ∀ field ∈ fields, field.2.Sound JoinsNames) : (ofFields fields).Sound JoinsNames := by
  rcases ofFields_cases fields with ⟨path, hpath, -, heq⟩ | heq
  · rw [heq]
    exact sound_reference.mpr hpath
  · rw [heq]
    exact sound_ofEntries h

mutual

/-- Every document decodes to a sound value. -/
theorem sound_ofJson (json : Json) : (ofJson json).Sound JoinsNames := by
  cases json with
  | null => exact ⟨trivial, trivial⟩
  | bool b => exact ⟨trivial, trivial⟩
  | number n => exact ⟨trivial, trivial⟩
  | string s => exact ⟨trivial, trivial⟩
  | array items => exact sound_array.mpr (sound_itemsOfJson items)
  | object fields => exact sound_ofFields (sound_fieldsOfJson fields)

theorem sound_itemsOfJson (items : List Json) :
    ∀ item ∈ itemsOfJson items, item.Sound JoinsNames := by
  cases items with
  | nil => exact fun item hitem => absurd hitem List.not_mem_nil
  | cons item rest => exact List.forall_mem_cons.mpr ⟨sound_ofJson item, sound_itemsOfJson rest⟩

theorem sound_fieldsOfJson (fields : List (String × Json)) :
    ∀ field ∈ fieldsOfJson fields, field.2.Sound JoinsNames := by
  cases fields with
  | nil => exact fun field hfield => absurd hfield List.not_mem_nil
  | cons field rest =>
      exact List.forall_mem_cons.mpr ⟨sound_ofJson field.2, sound_fieldsOfJson rest⟩

end

theorem sound_ofText {text : String} {v : Value} (h : ofText text = .ok v) :
    v.Sound JoinsNames := by
  rw [ofText] at h
  cases hjson : Json.ofText text with
  | error e =>
      rw [hjson] at h
      cases h
  | ok json =>
      rw [hjson] at h
      cases h
      exact sound_ofJson json

theorem Sound.merge {p : String → Prop} {v w : Value} (hv : v.Sound p) (hw : w.Sound p) :
    (v.merge w).Sound p := by
  unfold Value.merge
  split
  next base extra =>
    obtain ⟨hkeys, hbase⟩ := sound_object.mp hv
    obtain ⟨-, hextra⟩ := sound_object.mp hw
    refine sound_object.mpr ⟨Entries.nodup_keys_insertAll hkeys, fun entry hentry => ?_⟩
    exact (Entries.mem_of_mem_insertAll hentry).elim (hbase entry) (hextra entry)
  next => exact hw

theorem Sound.get {p : String → Prop} {v w : Value} {key : String} (hv : v.Sound p)
    (h : v.get? key = some w) : w.Sound p := by
  obtain ⟨entries, hentries, hfind⟩ := Option.bind_eq_some_iff.mp h
  cases v with
  | object entries' =>
      cases hentries
      exact (sound_object.mp hv).2 _ (Entries.mem_of_find? hfind)
  | _ => simp [entries?] at hentries

/-! ### Steps -/

/-- What can be done to a value. What cannot be done leaves the value as it is. -/
inductive Operation where
  /-- Decodes a document. -/
  | decode (json : Json)
  /-- Decodes a text. -/
  | read (text : String)
  /-- Makes a reference. -/
  | refer (path : String)
  | merge (other : Value)
  /-- Makes an array in which the value stands between others. -/
  | wrapItem (before after : List Value)
  /-- Makes an object in which the value stands between other entries. -/
  | wrapEntry (before : List (String × Value)) (key : String) (after : List (String × Value))
  /-- Goes on with an entry of the object. -/
  | select (key : String)
  /-- Encodes the value as a document and decodes it again. -/
  | throughJson
  /-- Writes the value as a text and reads it again. -/
  | throughText

namespace Operation

/-- The other values that an operation is about. -/
def operands : Operation → List Value
  | .merge other => [other]
  | .wrapItem before after => before ++ after
  | .wrapEntry before _ after => (before ++ after).map Prod.snd
  | _ => []

def apply : Operation → Value → Value
  | .decode json, _ => ofJson json
  | .read text, v => (ofText text).toOption.getD v
  | .refer path, v => (reference? path).toOption.getD v
  | .merge other, v => v.merge other
  | .wrapItem before after, v => .array (before ++ v :: after)
  | .wrapEntry before key after, v => ofEntries (before ++ (key, v) :: after)
  | .select key, v => (v.get? key).getD v
  | .throughJson, v => ofJson v.toJson
  | .throughText, v => (ofText v.write).toOption.getD v

/-- One step keeps values sound. -/
theorem sound_apply {op : Operation} {v : Value}
    (hoperands : ∀ w ∈ op.operands, w.Sound JoinsNames) (hv : v.Sound JoinsNames) :
    (op.apply v).Sound JoinsNames := by
  have hread (text : String) : ((ofText text).toOption.getD v).Sound JoinsNames := by
    cases htext : ofText text with
    | error e => exact hv
    | ok w => exact sound_ofText htext
  cases op with
  | decode json => exact sound_ofJson json
  | read text => exact hread text
  | refer path =>
      rw [apply]
      cases hpath : reference? path with
      | error e => exact hv
      | ok w => exact sound_reference? hpath
  | merge other => exact hv.merge (hoperands other List.mem_cons_self)
  | wrapItem before after =>
      have hothers := List.forall_mem_append.mp hoperands
      exact sound_array.mpr (List.forall_mem_append.mpr
        ⟨hothers.1, List.forall_mem_cons.mpr ⟨hv, hothers.2⟩⟩)
  | wrapEntry before key after =>
      have hothers := List.forall_mem_append.mp (List.forall_mem_map.mp hoperands)
      exact sound_ofEntries (List.forall_mem_append.mpr
        ⟨hothers.1, List.forall_mem_cons.mpr ⟨hv, hothers.2⟩⟩)
  | select key =>
      rw [apply]
      cases hkey : v.get? key with
      | none => exact hv
      | some w => exact hv.get hkey
  | throughJson => exact sound_ofJson _
  | throughText => exact hread v.write

end Operation

/-- Values that can be made from `null` in a finite number of steps; the operands of a step are
made in the same way. -/
inductive Reached : Value → Prop
  | null : Reached .null
  | step {v : Value} (op : Operation) (hoperands : ∀ w ∈ op.operands, Reached w)
      (hv : Reached v) : Reached (op.apply v)

/-- What is made in any number of steps is sound. -/
theorem Reached.sound {v : Value} (h : Reached v) : v.Sound JoinsNames := by
  induction h with
  | null => exact ⟨trivial, trivial⟩
  | step op _ _ ihoperands ihv => exact Operation.sound_apply ihoperands ihv

/-- A path that is not well formed spells no reference, so the object stays an object. -/
theorem ofJson_of_not_joinsNames {path : String} (h : ¬JoinsNames path)
    {fields : List (String × Json)}
    (hpath : Entries.find? referenceKey (Entries.ofList (fieldsOfJson fields)) =
      some (.string path)) :
    ofJson (.object fields) = .object (Entries.ofList (fieldsOfJson fields)) := by
  rcases ofFields_cases (fieldsOfJson fields) with ⟨spelled, hspelled, hfields, -⟩ | heq
  · rw [hfields] at hpath
    cases hpath
    exact absurd hspelled h
  · exact heq

/-- In every value that is reached, at any depth, the references have paths of one or more names
with dots between them, and no object repeats a key. A path of another form is refused: making a
reference of it leaves the value as it is, and in a document it stays an entry of its object. -/
theorem reached_joinsNames :
    (∀ v, Reached v → v.EveryReference JoinsNames ∧ v.WellFormed) ∧
      ∀ path, ¬JoinsNames path →
        reference? path = .error (.invalidPath path) ∧
          (∀ v, (Operation.refer path).apply v = v) ∧
          ∀ fields,
            Entries.find? referenceKey (Entries.ofList (fieldsOfJson fields)) =
                some (.string path) →
              ofJson (.object fields) = .object (Entries.ofList (fieldsOfJson fields)) := by
  refine ⟨fun v hv => ?_, fun path hpath => ?_⟩
  · exact ⟨hv.sound.references, hv.sound.wellFormed⟩
  · have hrefused := reference?_of_not_joinsNames hpath
    refine ⟨hrefused, fun v => ?_, fun fields hfields => ofJson_of_not_joinsNames hpath hfields⟩
    rw [Operation.apply, hrefused]
    rfl

/-- A reference that is wrapped, with an object merged into it that only looks like one. -/
theorem reached_joinsNames_merged :
    (Value.object [("a", .reference "app.id"),
        ("b", .object [("$ref", .string "app.")])]).EveryReference JoinsNames ∧
      ¬JoinsNames "app." ∧
      ofJson (.object [("$ref", .string "app.")]) = .object [("$ref", .string "app.")] := by
  have hbad : ¬JoinsNames "app." := by
    rw [← isWellFormed_iff]
    decide +kernel
  have hdecoded : Reached (.object [("b", .object [("$ref", .string "app.")])]) := by
    rw [show (.object [("b", .object [("$ref", .string "app.")])] : Value) =
      (Operation.decode (.object [("b", .object [("$ref", .string "app.")])])).apply .null by
        decide +kernel]
    exact .step _ (by simp [Operation.operands]) .null
  have hreferred : Reached (.reference "app.id") := by
    rw [show Value.reference "app.id" = (Operation.refer "app.id").apply .null by decide +kernel]
    exact .step _ (by simp [Operation.operands]) .null
  have hwrapped := hreferred.step (.wrapEntry [] "a" []) (by simp [Operation.operands])
  have hmerged := hwrapped.step (.merge _) (by simpa [Operation.operands] using hdecoded)
  have hreached : Reached (.object [("a", .reference "app.id"),
      ("b", .object [("$ref", .string "app.")])]) := hmerged
  exact ⟨(reached_joinsNames.1 _ hreached).1, hbad, (reached_joinsNames.2 _ hbad).2.2 _ rfl⟩

end SnippetBridge.Value
