import SnippetBridge.Proofs.Json.Reading

/-!
Documents that are nested too deep are refused. What stands before the first bracket that is too
deep is read as usual, and at this bracket the reader breaks off; what was found so far is no
document.
-/

namespace SnippetBridge.Json

theorem ne_nil_of_itemsDepth {room : Nat} {items : List Json}
    (h : room < depth.itemsDepth items) : items ≠ [] := by
  rintro rfl
  simp [depth.itemsDepth] at h

theorem ne_nil_of_fieldsDepth {room : Nat} {fields : List (String × Json)}
    (h : room < depth.fieldsDepth fields) : fields ≠ [] := by
  rintro rfl
  simp [depth.fieldsDepth] at h

mutual

/-- A text is not read if the document that it spells is deeper than there is room. -/
theorem value?_of_spells_deep {fuel room : Nat} {rest : List Char} (json : Json) {text : List Char}
    (h : Spells json text) (hfuel : 3 * text.length ≤ fuel) (hroom : room < json.depth) :
    value? fuel room (text ++ rest) = none := by
  cases json with
  | array found =>
      obtain ⟨body, hbody, rfl⟩ := h
      obtain ⟨fuel, rfl⟩ : ∃ n, fuel = n + 2 := ⟨fuel - 2, by simp at hfuel; omega⟩
      cases room with
      | zero => simp [value?]
      | succ room =>
          have hfound : room < depth.itemsDepth found := by simpa [depth] using hroom
          have hdeep : (items (fuel + 1) room (body ++ ']' :: rest)).2 = none := by
            rw [items_eq_moreItems hbody (ne_nil_of_itemsDepth hfound)]
            exact moreItems_of_spells_deep found hbody (by simp at hfuel; omega) hfound
          simp [value?, hdeep]
  | object found =>
      obtain ⟨body, hbody, rfl⟩ := h
      obtain ⟨fuel, rfl⟩ : ∃ n, fuel = n + 2 := ⟨fuel - 2, by simp at hfuel; omega⟩
      cases room with
      | zero => simp [value?]
      | succ room =>
          have hfound : room < depth.fieldsDepth found := by simpa [depth] using hroom
          have hdeep : (fields (fuel + 1) room (body ++ '}' :: rest)).2 = none := by
            rw [fields_eq_moreFields hbody (ne_nil_of_fieldsDepth hfound)]
            exact moreFields_of_spells_deep found hbody (by simp at hfuel; omega) hfound
          simp [value?, hdeep]
  | _ => simp [depth] at hroom

/-- An array is not read to its end if one of its items is too deep. -/
theorem moreItems_of_spells_deep {fuel room : Nat} {rest : List Char} (found : List Json)
    {body : List Char} (h : SpellsItems found body) (hfuel : 3 * body.length + 1 ≤ fuel)
    (hroom : room < depth.itemsDepth found) :
    (moreItems fuel room (body ++ ']' :: rest)).2 = none := by
  cases found with
  | nil => exact absurd rfl (ne_nil_of_itemsDepth hroom)
  | cons item found =>
      obtain ⟨fuel, rfl⟩ : ∃ n, fuel = n + 1 := ⟨fuel - 1, by omega⟩
      obtain ⟨front, text, back, tail, hfront, htext, hback, rfl, htail⟩ := h
      simp only [List.length_append] at hfuel
      simp only [List.append_assoc, moreItems, skipBlank_append hfront, skipBlank_of_spells htext]
      by_cases hitem : item.depth ≤ room
      · -- The item itself has room, so there are more items and one of these is too deep.
        have hfound : room < depth.itemsDepth found :=
          (lt_max_iff.mp hroom).resolve_left (Nat.not_lt.mpr hitem)
        obtain ⟨rfl, -⟩ | ⟨hne, more, hmore, rfl⟩ := htail
        · exact absurd rfl (ne_nil_of_itemsDepth hfound)
        · have hread : value? fuel room (text ++ (back ++ ',' :: (more ++ ']' :: rest))) =
              some (item, back ++ ',' :: (more ++ ']' :: rest)) :=
            value?_of_spells item htext (by omega) hitem
              (endsNumber_append hback (endsNumber_separator (.inl rfl) _))
          have hdeep : (moreItems fuel room (more ++ ']' :: rest)).2 = none :=
            moreItems_of_spells_deep found hmore (by simp at hfuel; omega) hfound
          simp only [List.cons_append, hread, skipBlank_append hback]
          simpa [skipBlank] using hdeep
      · rw [value?_of_spells_deep item htext (by omega) (Nat.not_le.mp hitem)]

/-- An object is not read to its end if one of its values is too deep. -/
theorem moreFields_of_spells_deep {fuel room : Nat} {rest : List Char}
    (found : List (String × Json)) {body : List Char} (h : SpellsFields found body)
    (hfuel : 3 * body.length + 1 ≤ fuel) (hroom : room < depth.fieldsDepth found) :
    (moreFields fuel room (body ++ '}' :: rest)).2 = none := by
  cases found with
  | nil => exact absurd rfl (ne_nil_of_fieldsDepth hroom)
  | cons field found =>
      obtain ⟨key, value⟩ := field
      obtain ⟨fuel, rfl⟩ : ∃ n, fuel = n + 1 := ⟨fuel - 1, by omega⟩
      obtain ⟨front, gap, text, back, tail, hfront, hgap, htext, hback, rfl, htail⟩ := h
      simp only [List.length_append, List.length_cons] at hfuel
      simp only [List.append_assoc, List.cons_append, List.nil_append, stringText, moreFields,
        skipBlank_append hfront, skipBlank_cons (c := '"') (by simp), stringRest_encode,
        skipBlank_cons (c := ':') (by simp), skipBlank_append hgap, skipBlank_of_spells htext]
      by_cases hvalue : value.depth ≤ room
      · have hfound : room < depth.fieldsDepth found :=
          (lt_max_iff.mp hroom).resolve_left (Nat.not_lt.mpr hvalue)
        obtain ⟨rfl, -⟩ | ⟨hne, more, hmore, rfl⟩ := htail
        · exact absurd rfl (ne_nil_of_fieldsDepth hfound)
        · have hread : value? fuel room (text ++ (back ++ ',' :: (more ++ '}' :: rest))) =
              some (value, back ++ ',' :: (more ++ '}' :: rest)) :=
            value?_of_spells value htext (by omega) hvalue
              (endsNumber_append hback (endsNumber_separator (.inl rfl) _))
          have hdeep : (moreFields fuel room (more ++ '}' :: rest)).2 = none :=
            moreFields_of_spells_deep found hmore (by simp at hfuel; omega) hfound
          simp only [List.cons_append, hread, skipBlank_append hback]
          simpa [skipBlank] using hdeep
      · rw [value?_of_spells_deep value htext (by omega) (Nat.not_le.mp hvalue)]

end

theorem items_of_spells_deep {fuel room : Nat} {rest body : List Char} (found : List Json)
    (h : SpellsItems found body) (hfuel : 3 * body.length + 2 ≤ fuel)
    (hroom : room < depth.itemsDepth found) : (items fuel room (body ++ ']' :: rest)).2 = none := by
  obtain ⟨fuel, rfl⟩ : ∃ n, fuel = n + 1 := ⟨fuel - 1, by omega⟩
  rw [items_eq_moreItems h (ne_nil_of_itemsDepth hroom)]
  exact moreItems_of_spells_deep found h (by omega) hroom

theorem fields_of_spells_deep {fuel room : Nat} {rest body : List Char}
    (found : List (String × Json)) (h : SpellsFields found body)
    (hfuel : 3 * body.length + 2 ≤ fuel) (hroom : room < depth.fieldsDepth found) :
    (fields fuel room (body ++ '}' :: rest)).2 = none := by
  obtain ⟨fuel, rfl⟩ : ∃ n, fuel = n + 1 := ⟨fuel - 1, by omega⟩
  rw [fields_eq_moreFields h (ne_nil_of_fieldsDepth hroom)]
  exact moreFields_of_spells_deep found h (by omega) hroom

/-- The text of a document that is nested too deep is refused, whatever stands behind it. -/
theorem ofText_of_spells_deep {json : Json} {text back : List Char} (h : Spells json text)
    (hdepth : maxDepth < json.depth) :
    ofText (String.ofList (text ++ back)) = .error .syntaxFault := by
  have hstart : skipBlank (String.ofList (text ++ back)).toList = text ++ back := by
    rw [String.toList_ofList, skipBlank_of_spells h]
  cases json with
  | array found =>
      obtain ⟨body, hbody, rfl⟩ := h
      have hfound : maxDepth - 1 < depth.itemsDepth found := by
        simp only [depth, maxDepth] at hdepth ⊢
        omega
      simp only [List.cons_append, List.append_assoc, List.nil_append] at hstart ⊢
      simp only [ofText, draft, hstart]
      rw [items_of_spells_deep found hbody (by simp; omega) hfound]
      rfl
  | object found =>
      obtain ⟨body, hbody, rfl⟩ := h
      have hfound : maxDepth - 1 < depth.fieldsDepth found := by
        simp only [depth, maxDepth] at hdepth ⊢
        omega
      simp only [List.cons_append, List.append_assoc, List.nil_append] at hstart ⊢
      simp only [ofText, draft, hstart]
      rw [fields_of_spells_deep found hbody (by simp; omega) hfound]
      rfl
  | _ => simp [depth] at hdepth

end SnippetBridge.Json
