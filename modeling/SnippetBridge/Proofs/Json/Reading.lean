import SnippetBridge.Proofs.Json.Spelling

/-!
Reading what a text spells. The fuel of the reader never runs out, since three steps pay for each
character; the only limit is the nesting depth that the reader allows.
-/

namespace SnippetBridge.Json

variable {rest : List Char} {fuel room : Nat}

theorem endsNumber_append {back : List Char} (hback : Blank back) (hrest : EndsNumber rest) :
    EndsNumber (back ++ rest) := by
  cases back with
  | nil => exact hrest
  | cons c back =>
      rcases (List.forall_mem_cons.mp hback).1 with rfl | rfl | rfl | rfl
      all_goals exact endsNumber_cons rfl (by decide) (by decide) (by decide) _

theorem endsNumber_separator {c : Char} (hc : c = ',' ∨ c = ']' ∨ c = '\x7d')
    (rest : List Char) : EndsNumber (c :: rest) := by
  rcases hc with rfl | rfl | rfl
  all_goals exact endsNumber_cons rfl (by decide) (by decide) (by decide) rest

/-- What starts with a digit or a minus is read as a number. -/
theorem value?_number {c : Char} (hc : c.isDigit ∨ c = '-') (cs : List Char) :
    value? (fuel + 1) room (c :: cs) =
      (number? (c :: cs)).map fun (n, rest) => (.number n, rest) := by
  have hother : c ≠ 'n' ∧ c ≠ 't' ∧ c ≠ 'f' ∧ c ≠ '"' ∧ c ≠ '[' ∧ c ≠ '{' := by
    refine ⟨?_, ?_, ?_, ?_, ?_, ?_⟩
    all_goals
      rintro rfl
      simp at hc
  rw [value?]
  · cases number? (c :: cs) <;> rfl
  all_goals
    rintro _ ⟨⟩
    simp at hother

/-! ### Brackets -/

theorem skipBlank_skipBlank (cs : List Char) : skipBlank (skipBlank cs) = skipBlank cs := by
  induction cs with
  | nil => rfl
  | cons c cs ih =>
      by_cases hc : c = ' ' ∨ c = '\n' ∨ c = '\r' ∨ c = '\t'
      · rw [skipBlank, if_pos hc, ih]
      · rw [skipBlank_cons hc, skipBlank_cons hc]

theorem moreItems_skipBlank (cs : List Char) :
    moreItems fuel room (skipBlank cs) = moreItems fuel room cs := by
  cases fuel with
  | zero => rw [moreItems, moreItems]
  | succ fuel => rw [moreItems, moreItems, skipBlank_skipBlank]

theorem moreFields_skipBlank (cs : List Char) :
    moreFields fuel room (skipBlank cs) = moreFields fuel room cs := by
  cases fuel with
  | zero => rw [moreFields, moreFields]
  | succ fuel => rw [moreFields, moreFields, skipBlank_skipBlank]

theorem items_eq_moreItems {found : List Json} {body : List Char} (h : SpellsItems found body)
    (hne : found ≠ []) :
    items (fuel + 1) room (body ++ ']' :: rest) = moreItems fuel room (body ++ ']' :: rest) := by
  cases found with
  | nil => exact absurd rfl hne
  | cons item found =>
      obtain ⟨front, text, back, tail, hfront, htext, -, rfl, -⟩ := h
      obtain ⟨c, cs, rfl, hc⟩ := htext.exists_head
      rw [← moreItems_skipBlank, items]
      simp only [List.append_assoc, List.cons_append, skipBlank_append hfront,
        skipBlank_cons hc.1]
      split
      · rename_i heq
        exact absurd (List.cons.inj heq).1 hc.2.1
      · rfl

theorem items_of_moreItems {found : List Json} {body : List Char} (h : SpellsItems found body)
    (hmore : found ≠ [] → moreItems fuel room (body ++ ']' :: rest) = (found, some rest)) :
    items (fuel + 1) room (body ++ ']' :: rest) = (found, some rest) := by
  cases found with
  | nil =>
      have hblank : Blank body := h
      rw [items, skipBlank_append hblank, skipBlank_cons (by simp)]
      rfl
  | cons item found => rw [items_eq_moreItems h (by simp), hmore (by simp)]

theorem fields_eq_moreFields {found : List (String × Json)} {body : List Char}
    (h : SpellsFields found body) (hne : found ≠ []) :
    fields (fuel + 1) room (body ++ '}' :: rest) = moreFields fuel room (body ++ '}' :: rest) := by
  cases found with
  | nil => exact absurd rfl hne
  | cons field found =>
      obtain ⟨front, gap, text, back, tail, hfront, -, -, -, rfl, -⟩ := h
      rw [← moreFields_skipBlank, fields]
      simp only [stringText, List.append_assoc, List.cons_append, skipBlank_append hfront,
        skipBlank_cons (c := '"') (by simp)]
      rfl

theorem fields_of_moreFields {found : List (String × Json)} {body : List Char}
    (h : SpellsFields found body)
    (hmore : found ≠ [] → moreFields fuel room (body ++ '}' :: rest) = (found, some rest)) :
    fields (fuel + 1) room (body ++ '}' :: rest) = (found, some rest) := by
  cases found with
  | nil =>
      have hblank : Blank body := h
      rw [fields, skipBlank_append hblank, skipBlank_cons (by simp)]
      rfl
  | cons field found => rw [fields_eq_moreFields h (by simp), hmore (by simp)]

theorem skipBlank_of_spells {json : Json} {text : List Char} (h : Spells json text)
    (rest : List Char) : skipBlank (text ++ rest) = text ++ rest := by
  obtain ⟨c, cs, rfl, hc⟩ := h.exists_head
  exact skipBlank_cons hc.1 (cs ++ rest)

/-! ### Documents -/

mutual

/-- A text is read as the document that it spells. -/
theorem value?_of_spells {fuel room : Nat} {rest : List Char} (json : Json) {text : List Char}
    (h : Spells json text) (hfuel : 3 * text.length ≤ fuel) (hroom : json.depth ≤ room)
    (hrest : EndsNumber rest) : value? fuel room (text ++ rest) = some (json, rest) := by
  obtain ⟨c, cs, htext, -⟩ := h.exists_head
  obtain ⟨fuel, rfl⟩ : ∃ n, fuel = n + 1 := ⟨fuel - 1, by simp [htext] at hfuel; omega⟩
  cases json with
  | null =>
      cases h
      simp [value?]
  | bool b =>
      cases h
      cases b <;> simp [boolText, value?]
  | number n =>
      cases h
      obtain ⟨c, cs, htext, hc⟩ := exists_head_of_text n
      have hread := number?_text hrest n
      rw [htext, List.cons_append] at hread ⊢
      rw [value?_number hc, hread]
      rfl
  | string s =>
      cases h
      simp [stringText, value?, stringRest_encode]
  | array found =>
      obtain ⟨body, hbody, rfl⟩ := h
      obtain ⟨room, rfl⟩ : ∃ n, room = n + 1 := ⟨room - 1, by simp [depth] at hroom; omega⟩
      obtain ⟨fuel, rfl⟩ : ∃ n, fuel = n + 1 := ⟨fuel - 1, by simp at hfuel; omega⟩
      have hread : items (fuel + 1) room (body ++ ']' :: rest) = (found, some rest) :=
        items_of_moreItems hbody fun hne => moreItems_of_spells found hbody hne
          (by simp at hfuel; omega) (by simpa [depth] using hroom)
      simp [value?, hread]
  | object found =>
      obtain ⟨body, hbody, rfl⟩ := h
      obtain ⟨room, rfl⟩ : ∃ n, room = n + 1 := ⟨room - 1, by simp [depth] at hroom; omega⟩
      obtain ⟨fuel, rfl⟩ : ∃ n, fuel = n + 1 := ⟨fuel - 1, by simp at hfuel; omega⟩
      have hread : fields (fuel + 1) room (body ++ '}' :: rest) = (found, some rest) :=
        fields_of_moreFields hbody fun hne => moreFields_of_spells found hbody hne
          (by simp at hfuel; omega) (by simpa [depth] using hroom)
      simp [value?, hread]

theorem moreItems_of_spells {fuel room : Nat} {rest : List Char} (found : List Json)
    {body : List Char} (h : SpellsItems found body) (hne : found ≠ [])
    (hfuel : 3 * body.length + 1 ≤ fuel) (hroom : depth.itemsDepth found ≤ room) :
    moreItems fuel room (body ++ ']' :: rest) = (found, some rest) := by
  cases found with
  | nil => exact absurd rfl hne
  | cons item found =>
      obtain ⟨fuel, rfl⟩ : ∃ n, fuel = n + 1 := ⟨fuel - 1, by omega⟩
      obtain ⟨front, text, back, tail, hfront, htext, hback, rfl, htail⟩ := h
      simp only [depth.itemsDepth, Nat.max_le] at hroom
      simp only [List.length_append] at hfuel
      -- Behind an item there is a bracket or a comma, with which no number goes on.
      have hends : EndsNumber (back ++ (tail ++ ']' :: rest)) := by
        refine endsNumber_append hback ?_
        rcases htail with ⟨-, rfl⟩ | ⟨-, more, -, rfl⟩
        · exact endsNumber_separator (.inr (.inl rfl)) rest
        · exact endsNumber_separator (.inl rfl) _
      have hitem : value? fuel room (text ++ (back ++ (tail ++ ']' :: rest))) =
          some (item, back ++ (tail ++ ']' :: rest)) :=
        value?_of_spells item htext (by omega) hroom.1 hends
      simp only [List.append_assoc, moreItems, skipBlank_append hfront, skipBlank_of_spells htext,
        hitem, skipBlank_append hback]
      rcases htail with ⟨rfl, rfl⟩ | ⟨hne, more, hmore, rfl⟩
      · simp [skipBlank]
      · have hfound : moreItems fuel room (more ++ ']' :: rest) = (found, some rest) :=
          moreItems_of_spells found hmore hne (by simp at hfuel; omega) hroom.2
        simp [skipBlank, hfound]

theorem moreFields_of_spells {fuel room : Nat} {rest : List Char}
    (found : List (String × Json)) {body : List Char} (h : SpellsFields found body)
    (hne : found ≠ []) (hfuel : 3 * body.length + 1 ≤ fuel)
    (hroom : depth.fieldsDepth found ≤ room) :
    moreFields fuel room (body ++ '}' :: rest) = (found, some rest) := by
  cases found with
  | nil => exact absurd rfl hne
  | cons field found =>
      obtain ⟨key, value⟩ := field
      obtain ⟨fuel, rfl⟩ : ∃ n, fuel = n + 1 := ⟨fuel - 1, by omega⟩
      obtain ⟨front, gap, text, back, tail, hfront, hgap, htext, hback, rfl, htail⟩ := h
      simp only [depth.fieldsDepth, Nat.max_le] at hroom
      simp only [List.length_append, List.length_cons] at hfuel
      have hends : EndsNumber (back ++ (tail ++ '}' :: rest)) := by
        refine endsNumber_append hback ?_
        rcases htail with ⟨-, rfl⟩ | ⟨-, more, -, rfl⟩
        · exact endsNumber_separator (.inr (.inr rfl)) rest
        · exact endsNumber_separator (.inl rfl) _
      have hvalue : value? fuel room (text ++ (back ++ (tail ++ '}' :: rest))) =
          some (value, back ++ (tail ++ '}' :: rest)) :=
        value?_of_spells value htext (by omega) hroom.1 hends
      simp only [List.append_assoc, List.cons_append, List.nil_append, stringText, moreFields,
        skipBlank_append hfront, skipBlank_cons (c := '"') (by simp), stringRest_encode,
        skipBlank_cons (c := ':') (by simp), skipBlank_append hgap, skipBlank_of_spells htext,
        hvalue, skipBlank_append hback, String.ofList_toList]
      rcases htail with ⟨rfl, rfl⟩ | ⟨hne, more, hmore, rfl⟩
      · simp [skipBlank]
      · have hfound : moreFields fuel room (more ++ '}' :: rest) = (found, some rest) :=
          moreFields_of_spells found hmore hne (by simp at hfuel; omega) hroom.2
        simp [skipBlank, hfound]

end

theorem close_of_blank {back : List Char} (h : Blank back) (json : Json) :
    Draft.close json (some back) = ⟨some json, .complete⟩ := by
  rw [Draft.close, skipBlank_of_blank h]
  rfl

/-- What is neither an array nor an object is looked at as a whole. -/
theorem draft_of_scalar {text : String} {cs : List Char} (htext : skipBlank text.toList = cs)
    (hbracket : cs.head? ≠ some '[') (hbrace : cs.head? ≠ some '\x7b') :
    draft text = match value? (3 * cs.length + 3) maxDepth cs with
      | none => ⟨none, .broken⟩
      | some (json, rest) => .close json (some rest) := by
  simp only [draft, htext]
  split
  · simp at hbracket
  · simp at hbrace
  · rfl

theorem draft_of_spells {json : Json} {text back : List Char} (h : Spells json text)
    (hback : Blank back) (hdepth : json.depth ≤ maxDepth) :
    draft (String.ofList (text ++ back)) = ⟨some json, .complete⟩ := by
  have hstart : skipBlank (String.ofList (text ++ back)).toList = text ++ back := by
    rw [String.toList_ofList, skipBlank_of_spells h]
  have hends : EndsNumber back := by
    have hends := endsNumber_append hback endsNumber_nil
    rwa [List.append_nil] at hends
  have hscalar (hbracket : text.head? ≠ some '[') (hbrace : text.head? ≠ some '\x7b') :
      draft (String.ofList (text ++ back)) = ⟨some json, .complete⟩ := by
    obtain ⟨c, cs, rfl, -⟩ := h.exists_head
    rw [draft_of_scalar hstart (by simpa using hbracket) (by simpa using hbrace),
      value?_of_spells json h (by simp only [List.length_append]; omega) hdepth hends]
    exact close_of_blank hback json
  -- The first character decides how a document is looked at, so brackets are cases of their own.
  cases json with
  | null => cases h; exact hscalar (by simp) (by simp)
  | bool b => cases h; cases b <;> exact hscalar (by simp [boolText]) (by simp [boolText])
  | number n =>
      obtain ⟨c, cs, htext, hc⟩ := exists_head_of_text n
      have hhead : text.head? = some c := by rw [show text = n.text from h, htext]; rfl
      refine hscalar ?_ ?_
      all_goals
        rw [hhead, ne_eq, Option.some.injEq]
        rintro rfl
        simp at hc
  | string s => cases h; exact hscalar (by simp [stringText]) (by simp [stringText])
  | array found =>
      obtain ⟨body, hbody, rfl⟩ := h
      simp only [List.cons_append, List.append_assoc, List.nil_append] at hstart ⊢
      have hread : items (3 * (body.length + (back.length + 1) + 1) + 3) (maxDepth - 1)
          (body ++ ']' :: back) = (found, some back) :=
        items_of_moreItems hbody fun hne => moreItems_of_spells found hbody hne (by omega)
          (by simp only [depth] at hdepth; omega)
      simp only [draft, hstart, List.length_cons, List.length_append, hread, close_of_blank hback]
  | object found =>
      obtain ⟨body, hbody, rfl⟩ := h
      simp only [List.cons_append, List.append_assoc, List.nil_append] at hstart ⊢
      have hread : fields (3 * (body.length + (back.length + 1) + 1) + 3) (maxDepth - 1)
          (body ++ '}' :: back) = (found, some back) :=
        fields_of_moreFields hbody fun hne => moreFields_of_spells found hbody hne (by omega)
          (by simp only [depth] at hdepth; omega)
      simp only [draft, hstart, List.length_cons, List.length_append, hread, close_of_blank hback]

/-- The text of a document, with blanks behind it, is read as the document. -/
theorem ofText_of_spells {json : Json} {text back : List Char} (h : Spells json text)
    (hback : Blank back) (hdepth : json.depth ≤ maxDepth) :
    ofText (String.ofList (text ++ back)) = .ok json := by
  rw [ofText, draft_of_spells h hback hdepth]

end SnippetBridge.Json
