import SnippetBridge.Json.Decoding
import SnippetBridge.Proofs.Json.Number
import SnippetBridge.Proofs.Json.Quoted

/-!
Texts that spell a document. The compact and the indented text differ in blanks only, and the reader
does not see blanks; so it is enough to know that each of them spells the document. A text is read
as the document that it spells, whatever stands behind it, if the document is not nested too deep.
-/

namespace SnippetBridge.Json

/-! ### Blanks -/

def Blank (cs : List Char) : Prop := ∀ c ∈ cs, c = ' ' ∨ c = '\n' ∨ c = '\r' ∨ c = '\t'

theorem blank_nil : Blank [] := by simp [Blank]

theorem blank_cons {c : Char} (hc : c = ' ' ∨ c = '\n' ∨ c = '\r' ∨ c = '\t') {cs : List Char}
    (h : Blank cs) : Blank (c :: cs) := List.forall_mem_cons.mpr ⟨hc, h⟩

theorem blank_indentation (depth : Nat) : Blank (Text.indentation depth) := by
  intro c hc
  exact .inl (List.eq_of_mem_replicate hc)

theorem skipBlank_append {front : List Char} (h : Blank front) (cs : List Char) :
    skipBlank (front ++ cs) = skipBlank cs := by
  induction front with
  | nil => rfl
  | cons c front ih =>
      obtain ⟨hc, hfront⟩ := List.forall_mem_cons.mp h
      rw [List.cons_append, skipBlank, if_pos hc, ih hfront]

theorem skipBlank_of_blank {cs : List Char} (h : Blank cs) : skipBlank cs = [] := by
  have hskip := skipBlank_append h []
  rwa [List.append_nil] at hskip

/-- A character that a value can start with: neither a blank nor a closing bracket. -/
def StartsValue (c : Char) : Prop :=
  ¬(c = ' ' ∨ c = '\n' ∨ c = '\r' ∨ c = '\t') ∧ c ≠ ']' ∧ c ≠ '}'

theorem startsValue_of_isDigit {c : Char} (h : c.isDigit) : StartsValue c := by
  refine ⟨?_, ?_, ?_⟩
  · rintro (rfl | rfl | rfl | rfl) <;> simp at h
  · rintro rfl
    simp at h
  · rintro rfl
    simp at h

theorem skipBlank_cons {c : Char} (h : ¬(c = ' ' ∨ c = '\n' ∨ c = '\r' ∨ c = '\t'))
    (cs : List Char) : skipBlank (c :: cs) = c :: cs := by rw [skipBlank, if_neg h]

/-! ### Spelling -/

mutual

/-- A text that spells a document, with blanks wherever they may stand. -/
def Spells : Json → List Char → Prop
  | .null, text => text = ['n', 'u', 'l', 'l']
  | .bool b, text => text = boolText b
  | .number n, text => text = n.text
  | .string s, text => text = stringText s
  | .array items, text => ∃ body, SpellsItems items body ∧ text = '[' :: (body ++ [']'])
  | .object fields, text => ∃ body, SpellsFields fields body ∧ text = '{' :: (body ++ ['}'])

/-- What stands between the brackets of an array. -/
def SpellsItems : List Json → List Char → Prop
  | [], body => Blank body
  | item :: rest, body => ∃ front text back tail, Blank front ∧ Spells item text ∧ Blank back ∧
      body = front ++ (text ++ (back ++ tail)) ∧
      (rest = [] ∧ tail = [] ∨ rest ≠ [] ∧ ∃ more, SpellsItems rest more ∧ tail = ',' :: more)

/-- What stands between the braces of an object. -/
def SpellsFields : List (String × Json) → List Char → Prop
  | [], body => Blank body
  | (key, value) :: rest, body => ∃ front gap text back tail, Blank front ∧ Blank gap ∧
      Spells value text ∧ Blank back ∧
      body = front ++ (stringText key ++ ':' :: (gap ++ (text ++ (back ++ tail)))) ∧
      (rest = [] ∧ tail = [] ∨ rest ≠ [] ∧ ∃ more, SpellsFields rest more ∧ tail = ',' :: more)

end

/-- A value starts where its text starts. -/
theorem Spells.exists_head {json : Json} {text : List Char} (h : Spells json text) :
    ∃ c cs, text = c :: cs ∧ StartsValue c := by
  cases json with
  | null => exact ⟨_, _, h, by simp [StartsValue]⟩
  | bool b => cases b <;> exact ⟨_, _, h, by simp [StartsValue]⟩
  | number n =>
      obtain ⟨c, cs, htext, hc⟩ := exists_head_of_text n
      refine ⟨c, cs, h.trans htext, ?_⟩
      rcases hc with hdigit | rfl
      · exact startsValue_of_isDigit hdigit
      · simp [StartsValue]
  | string s => exact ⟨_, _, h, by simp [StartsValue]⟩
  | array items =>
      obtain ⟨body, -, htext⟩ := h
      exact ⟨_, _, htext, by simp [StartsValue]⟩
  | object fields =>
      obtain ⟨body, -, htext⟩ := h
      exact ⟨_, _, htext, by simp [StartsValue]⟩

/-! ### The indented text -/

theorem spellsItems_separated {front back : List Char} (hfront : Blank front) (hback : Blank back)
    {items : List Json} {texts : List (List Char)} (h : List.Forall₂ Spells items texts)
    (hne : items ≠ []) :
    SpellsItems items (front ++ (Text.separated (',' :: front) texts ++ back)) := by
  induction h with
  | nil => exact absurd rfl hne
  | @cons item text rest texts htext hrest ih =>
      cases hrest with
      | nil =>
          refine ⟨front, text, back, [], hfront, htext, hback, ?_, .inl ⟨rfl, rfl⟩⟩
          simp [Text.separated]
      | cons hnext hmore =>
          refine ⟨front, text, [], _, hfront, htext, blank_nil, ?_,
            .inr ⟨by simp, _, ih (by simp), rfl⟩⟩
          simp [Text.separated]

/-- A line for one field: its key, a colon and its value. -/
def SpellsField (field : String × Json) (line : List Char) : Prop :=
  ∃ gap text, Blank gap ∧ Spells field.2 text ∧ line = stringText field.1 ++ ':' :: (gap ++ text)

theorem spellsFields_separated {front back : List Char} (hfront : Blank front) (hback : Blank back)
    {fields : List (String × Json)} {lines : List (List Char)}
    (h : List.Forall₂ SpellsField fields lines) (hne : fields ≠ []) :
    SpellsFields fields (front ++ (Text.separated (',' :: front) lines ++ back)) := by
  induction h with
  | nil => exact absurd rfl hne
  | @cons field line rest lines hline hrest ih =>
      obtain ⟨key, value⟩ := field
      obtain ⟨gap, text, hgap, htext, rfl⟩ := hline
      cases hrest with
      | nil =>
          refine ⟨front, gap, text, back, [], hfront, hgap, htext, hback, ?_, .inl ⟨rfl, rfl⟩⟩
          simp [Text.separated]
      | cons hnext hmore =>
          refine ⟨front, gap, text, [], _, hfront, hgap, htext, blank_nil, ?_,
            .inr ⟨by simp, _, ih (by simp), rfl⟩⟩
          simp [Text.separated]

theorem blank_newline (depth : Nat) : Blank ('\n' :: Text.indentation depth) :=
  blank_cons (by simp) (blank_indentation depth)

mutual

theorem spells_prettyText (depth : Nat) (json : Json) : Spells json (prettyText depth json) := by
  cases json with
  | null => rfl
  | bool b => rfl
  | number n => rfl
  | string s => rfl
  | array items =>
      have hitems := spells_prettyItems (depth + 1) items
      cases items with
      | nil => exact ⟨[], blank_nil, rfl⟩
      | cons item rest =>
          refine ⟨_, spellsItems_separated (blank_newline (depth + 1)) (blank_newline depth) hitems
            (by simp), ?_⟩
          simp [prettyText, prettyItems, Text.block]
  | object fields =>
      have hfields := spells_prettyFields (depth + 1) fields
      cases fields with
      | nil => exact ⟨[], blank_nil, rfl⟩
      | cons field rest =>
          refine ⟨_, spellsFields_separated (blank_newline (depth + 1)) (blank_newline depth)
            hfields (by simp), ?_⟩
          simp [prettyText, prettyFields, Text.block]

theorem spells_prettyItems (depth : Nat) (items : List Json) :
    List.Forall₂ Spells items (prettyItems depth items) := by
  cases items with
  | nil => exact .nil
  | cons item rest => exact .cons (spells_prettyText depth item) (spells_prettyItems depth rest)

theorem spells_prettyFields (depth : Nat) (fields : List (String × Json)) :
    List.Forall₂ SpellsField fields (prettyFields depth fields) := by
  cases fields with
  | nil => exact .nil
  | cons field rest =>
      obtain ⟨key, value⟩ := field
      have hgap : Blank [' '] := blank_cons (by simp) blank_nil
      exact .cons ⟨[' '], _, hgap, spells_prettyText depth value, rfl⟩
        (spells_prettyFields depth rest)

end

/-! ### The compact text -/

mutual

theorem spells_compactText (json : Json) : Spells json (compactText json) := by
  cases json with
  | null => rfl
  | bool b => rfl
  | number n => rfl
  | string s => rfl
  | array items =>
      have hitems := spells_compactItems items
      cases items with
      | nil => exact ⟨[], blank_nil, rfl⟩
      | cons item rest =>
          refine ⟨_, spellsItems_separated blank_nil blank_nil hitems (by simp), ?_⟩
          simp [compactText]
  | object fields =>
      have hfields := spells_compactFields fields
      cases fields with
      | nil => exact ⟨[], blank_nil, rfl⟩
      | cons field rest =>
          refine ⟨_, spellsFields_separated blank_nil blank_nil hfields (by simp), ?_⟩
          simp [compactText]

theorem spells_compactItems (items : List Json) : List.Forall₂ Spells items (compactItems items) := by
  cases items with
  | nil => exact .nil
  | cons item rest => exact .cons (spells_compactText item) (spells_compactItems rest)

theorem spells_compactFields (fields : List (String × Json)) :
    List.Forall₂ SpellsField fields (compactFields fields) := by
  cases fields with
  | nil => exact .nil
  | cons field rest =>
      obtain ⟨key, value⟩ := field
      exact .cons ⟨[], _, blank_nil, spells_compactText value, rfl⟩ (spells_compactFields rest)

end

end SnippetBridge.Json
