import SnippetBridge.Proofs.Json.Nesting
import SnippetBridge.Value.Text

/-!
The JSON text of a value. Written from the value itself it is the compact text of the value's JSON
form, and it is read as this form unless arrays, objects and references are nested too deep in the
value.
-/

namespace SnippetBridge.Value

mutual

/-- How deep arrays and objects are nested in a value; a reference counts as an object. -/
def depth : Value → Nat
  | .array items => itemsDepth items + 1
  | .object entries => entriesDepth entries + 1
  | .reference _ => 1
  | .null => 0
  | .bool _ => 0
  | .number _ => 0
  | .string _ => 0
  | .unknown => 0

def itemsDepth : List Value → Nat
  | [] => 0
  | item :: rest => max (depth item) (itemsDepth rest)

def entriesDepth : List (String × Value) → Nat
  | [] => 0
  | (_, value) :: rest => max (depth value) (entriesDepth rest)

end

theorem depth_numberJson (x : Binary64) : (numberJson x).depth = 0 := by
  rw [numberJson]
  split
  · rfl
  · split <;> rfl

mutual

theorem depth_toJson (v : Value) : v.toJson.depth = v.depth := by
  cases v with
  | null => rfl
  | bool b => rfl
  | number x => exact depth_numberJson x
  | string s => rfl
  | array items => rw [toJson, Json.depth, depth, itemsDepth_itemsToJson items]
  | object entries => rw [toJson, Json.depth, depth, fieldsDepth_entriesToJson entries]
  | reference path => rfl
  | unknown => rfl

theorem itemsDepth_itemsToJson (items : List Value) :
    Json.depth.itemsDepth (itemsToJson items) = itemsDepth items := by
  cases items with
  | nil => rfl
  | cons item rest =>
      rw [itemsToJson, Json.depth.itemsDepth, itemsDepth, depth_toJson item,
        itemsDepth_itemsToJson rest]

theorem fieldsDepth_entriesToJson (entries : List (String × Value)) :
    Json.depth.fieldsDepth (entriesToJson entries) = entriesDepth entries := by
  cases entries with
  | nil => rfl
  | cons entry rest =>
      obtain ⟨key, value⟩ := entry
      rw [entriesToJson, Json.depth.fieldsDepth, entriesDepth, depth_toJson value,
        fieldsDepth_entriesToJson rest]

end

/-- A number that is not finite is `null` in both ways of writing. -/
theorem compactText_numberJson (x : Binary64) : (numberJson x).compactText = numberText x := by
  rw [numberJson]
  split
  · rename_i n hn
    have htext : numberText x = Json.integerText n := by rw [numberText, hn]
    rw [htext]
    rfl
  · rename_i hnone
    have htext : numberText x = Json.doubleText x := by rw [numberText, hnone]
    rw [htext]
    cases x <;> rfl

mutual

/-- The text of a value is the compact text of its JSON form. -/
theorem compactText_toJson (v : Value) : v.toJson.compactText = text v := by
  cases v with
  | null => rfl
  | bool b => rfl
  | number x => exact compactText_numberJson x
  | string s => rfl
  | array items => rw [toJson, Json.compactText, text, compactItems_itemsToJson items]
  | object entries => rw [toJson, Json.compactText, text, compactFields_entriesToJson entries]
  | reference path => simp [toJson, Json.compactText, Json.compactFields, text, Text.separated]
  | unknown => rfl

theorem compactItems_itemsToJson (items : List Value) :
    Json.compactItems (itemsToJson items) = itemTexts items := by
  cases items with
  | nil => rfl
  | cons item rest =>
      rw [itemsToJson, Json.compactItems, itemTexts, compactText_toJson item,
        compactItems_itemsToJson rest]

theorem compactFields_entriesToJson (entries : List (String × Value)) :
    Json.compactFields (entriesToJson entries) = entryTexts entries := by
  cases entries with
  | nil => rfl
  | cons entry rest =>
      obtain ⟨key, value⟩ := entry
      rw [entriesToJson, Json.compactFields, entryTexts, compactText_toJson value,
        compactFields_entriesToJson rest]

end

/-- Both ways of writing a value as JSON give the same text. It is read as the JSON form of the
value if this is not nested more than 127 levels deep, and refused if it is. -/
theorem ofText_write (v : Value) :
    v.write = v.toJson.compact ∧
      ofText v.write = if v.depth ≤ 127 then .ok (ofJson v.toJson) else .error .syntaxFault := by
  have hwrite : v.write = v.toJson.compact := by rw [write, Json.compact, compactText_toJson]
  have hspells := Json.spells_compactText v.toJson
  have hcompact : v.toJson.compact = String.ofList (v.toJson.compactText ++ []) := by
    rw [List.append_nil, Json.compact]
  refine ⟨hwrite, ?_⟩
  rw [hwrite, hcompact, ofText]
  split
  · rename_i hdepth
    rw [Json.ofText_of_spells hspells Json.blank_nil (by rwa [depth_toJson])]
    rfl
  · rename_i hdepth
    rw [Json.ofText_of_spells_deep hspells (by rw [depth_toJson]; exact Nat.not_le.mp hdepth)]
    rfl

end SnippetBridge.Value
