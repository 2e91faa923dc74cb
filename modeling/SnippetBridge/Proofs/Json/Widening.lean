import SnippetBridge.Proofs.Entries
import SnippetBridge.Proofs.Json.Reading

/-!
Documents that hold more than they have to. A document is widened by putting fields of its objects
in another order and by adding fields that are not there, at any depth. What is looked up by name is
found in a widened document as in the document itself.
-/

namespace SnippetBridge.Json

mutual

/-- The second document is the first one with the fields of objects in any order and with other
fields among them. -/
def WidensTo : Json → Json → Prop
  | .null, wide => wide = .null
  | .bool b, wide => wide = .bool b
  | .number n, wide => wide = .number n
  | .string s, wide => wide = .string s
  | .array items, wide => ∃ found, wide = .array found ∧ ItemsWidenTo items found
  | .object fields, wide => ∃ kept extra found, wide = .object found ∧
      FieldsWidenTo fields kept ∧ (∀ field ∈ extra, field.1 ∉ Entries.keys fields) ∧
      found.Perm (kept ++ extra)

def ItemsWidenTo : List Json → List Json → Prop
  | [], found => found = []
  | item :: rest, found => ∃ first more, found = first :: more ∧ WidensTo item first ∧
      ItemsWidenTo rest more

def FieldsWidenTo : List (String × Json) → List (String × Json) → Prop
  | [], kept => kept = []
  | (key, value) :: rest, kept => ∃ first more, kept = (key, first) :: more ∧
      WidensTo value first ∧ FieldsWidenTo rest more

end

mutual

/-- Every document is a widened form of itself. -/
theorem widensTo_self (json : Json) : WidensTo json json := by
  cases json with
  | null => rfl
  | bool b => rfl
  | number n => rfl
  | string s => rfl
  | array items => exact ⟨items, rfl, itemsWidenTo_self items⟩
  | object fields => exact ⟨fields, [], fields, rfl, fieldsWidenTo_self fields, by simp, by simp⟩

theorem itemsWidenTo_self (items : List Json) : ItemsWidenTo items items := by
  cases items with
  | nil => rfl
  | cons item rest => exact ⟨item, rest, rfl, widensTo_self item, itemsWidenTo_self rest⟩

theorem fieldsWidenTo_self (fields : List (String × Json)) : FieldsWidenTo fields fields := by
  cases fields with
  | nil => rfl
  | cons field rest =>
      obtain ⟨key, value⟩ := field
      exact ⟨value, rest, rfl, widensTo_self value, fieldsWidenTo_self rest⟩

end

theorem FieldsWidenTo.keys_eq {fields kept : List (String × Json)} (h : FieldsWidenTo fields kept) :
    Entries.keys kept = Entries.keys fields := by
  induction fields generalizing kept with
  | nil => rw [show kept = [] from h]
  | cons field rest ih =>
      obtain ⟨key, value⟩ := field
      obtain ⟨first, more, rfl, -, hmore⟩ := h
      rw [Entries.keys_cons, Entries.keys_cons, ih hmore]

/-! ### Depth -/

theorem depth_le_fieldsDepth {field : String × Json} {fields : List (String × Json)}
    (h : field ∈ fields) : field.2.depth ≤ depth.fieldsDepth fields := by
  induction fields with
  | nil => cases h
  | cons other rest ih =>
      obtain ⟨key, value⟩ := other
      rw [depth.fieldsDepth]
      rcases List.mem_cons.mp h with rfl | hrest
      · exact Nat.le_max_left ..
      · exact (ih hrest).trans (Nat.le_max_right ..)

theorem fieldsDepth_le {fields : List (String × Json)} {bound : Nat}
    (h : ∀ field ∈ fields, field.2.depth ≤ bound) : depth.fieldsDepth fields ≤ bound := by
  induction fields with
  | nil => exact Nat.zero_le bound
  | cons field rest ih =>
      obtain ⟨hfield, hrest⟩ := List.forall_mem_cons.mp h
      exact Nat.max_le.mpr ⟨hfield, ih hrest⟩

mutual

theorem WidensTo.depth_le {json wide : Json} (h : WidensTo json wide) :
    json.depth ≤ wide.depth := by
  cases json with
  | array items =>
      obtain ⟨found, rfl, hfound⟩ := h
      exact Nat.succ_le_succ hfound.depth_le
  | object fields =>
      obtain ⟨kept, extra, found, rfl, hkept, -, hperm⟩ := h
      refine Nat.succ_le_succ (hkept.depth_le.trans (fieldsDepth_le fun field hfield => ?_))
      exact depth_le_fieldsDepth (hperm.mem_iff.mpr (List.mem_append_left extra hfield))
  | _ => exact Nat.zero_le _

theorem ItemsWidenTo.depth_le {items found : List Json} (h : ItemsWidenTo items found) :
    depth.itemsDepth items ≤ depth.itemsDepth found := by
  cases items with
  | nil => exact Nat.zero_le _
  | cons item rest =>
      obtain ⟨first, more, rfl, hfirst, hmore⟩ := h
      exact max_le_max hfirst.depth_le hmore.depth_le

theorem FieldsWidenTo.depth_le {fields kept : List (String × Json)}
    (h : FieldsWidenTo fields kept) :
    depth.fieldsDepth fields ≤ depth.fieldsDepth kept := by
  cases fields with
  | nil => exact Nat.zero_le _
  | cons field rest =>
      obtain ⟨key, value⟩ := field
      obtain ⟨first, more, rfl, hfirst, hmore⟩ := h
      exact max_le_max hfirst.depth_le hmore.depth_le

end

/-! ### Fields by name -/

theorem find?_of_nodup_keys {fields : List (String × Json)} {key : String} {value : Json}
    (h : (Entries.keys fields).Nodup) (hmem : (key, value) ∈ fields) :
    fields.find? (fun field => field.1 == key) = some (key, value) := by
  obtain ⟨field, hfield⟩ : ∃ field, fields.find? (fun field => field.1 == key) = some field :=
    Option.isSome_iff_exists.mp (List.find?_isSome.mpr ⟨_, hmem, beq_self_eq_true key⟩)
  have hkey : field.1 = key := by simpa using List.find?_some hfield
  rw [hfield, List.inj_on_of_nodup_map h (List.mem_of_find?_eq_some hfield) hmem hkey]

/-- The fields of a record are found under their names, wherever they stand and whatever other
fields there are, and they make a record if each of them fits. -/
theorem recordFields?_of_perm (fits : String → Json → Bool)
    {kept extra found : List (String × Json)} (hperm : found.Perm (kept ++ extra))
    (hnodup : (Entries.keys kept).Nodup) (hextra : ∀ field ∈ extra, field.1 ∉ Entries.keys kept) :
    recordFields? (Entries.keys kept) fits found =
      if kept.all fun field => fits field.1 field.2 then some (kept.map fun field => some field.2)
      else none := by
  have hknown : (found.filter fun field => (Entries.keys kept).contains field.1).Perm kept := by
    refine (hperm.filter _).trans (List.Perm.of_eq ?_)
    rw [List.filter_append, List.filter_eq_self.mpr, List.filter_eq_nil_iff.mpr, List.append_nil]
    · simpa using hextra
    · exact fun field hfield => List.contains_iff_mem.mpr (List.mem_map_of_mem hfield)
  have hkeys := hknown.map Prod.fst
  have hall : (found.filter fun field => (Entries.keys kept).contains field.1).all
      (fun field => fits field.1 field.2) = kept.all fun field => fits field.1 field.2 :=
    hknown.all_eq
  simp only [recordFields?, hkeys.nodup_iff.mpr hnodup, true_and, hall]
  split
  · refine congrArg some ?_
    rw [Entries.keys, List.map_map]
    refine List.map_congr_left fun field hfield => ?_
    have hfind := find?_of_nodup_keys (hkeys.nodup_iff.mpr hnodup) (hknown.mem_iff.mpr hfield)
    exact congrArg (Option.map Prod.snd) hfind
  · rfl

/-! ### Texts -/

/-- A text of a document or of a widened form of it, in any spelling. -/
def WideText (json : Json) (text : String) : Prop :=
  ∃ wide, ofText text = .ok wide ∧ json.WidensTo wide

/-- The compact text of a widened form, unless it is nested too deep, is a text of the document. -/
theorem wideText_compact {json wide : Json} (h : json.WidensTo wide)
    (hdepth : wide.depth ≤ maxDepth) :
    json.WideText wide.compact := by
  refine ⟨wide, ?_, h⟩
  have hread := ofText_of_spells (spells_compactText wide) blank_nil hdepth
  rwa [List.append_nil] at hread

/-- A text of a document leaves nothing unread. -/
theorem draft_of_ofText {text : String} {json : Json} (h : ofText text = .ok json) :
    draft text = ⟨some json, .complete⟩ := by
  rw [ofText] at h
  split at h
  · next hdraft =>
      cases h
      exact hdraft
  · cases h

/-- A text of a document is decoded as the document is read. -/
theorem decode_of_ofText {α : Type} {text : String} {json : Json} (h : ofText text = .ok json)
    (read : Json → Option α) :
    (draft text).decode read = match read json with
      | some content => .ok content
      | none => .error .shapeFault := by
  rw [draft_of_ofText h]
  simp only [Draft.decode]
  cases read json <;> rfl

end SnippetBridge.Json
