import SnippetBridge.Proofs.Rhai.Unambiguous
import SnippetBridge.Proofs.Text.Quoted

/-!
Literals with bare keys. Nothing is escaped in a bare key, so a key may contain what looks like the
lines of a map, and then two maps have one literal. This takes a line end behind a colon and a
blank: without one, the key of a line ends at the first colon and blank that a literal follows,
because a string is the only literal with colons on its first line and none of its blanks is
followed by a quote.
-/

namespace SnippetBridge.Rhai

open Value Text

/-- A key without a line end behind a colon and a blank. -/
def OneLine (key : String) : Prop :=
  ∀ front back, key.toList = front ++ ':' :: ' ' :: back → '\n' ∉ back

theorem oneLine_of_not_mem {key : String} (h : '\n' ∉ key.toList) : OneLine key := by
  intro front back hkey hmem
  exact h (by simp [hkey, hmem])

variable {options : Options} {depth : Nat} {v w : Value} {rest rest' : List Char}

/-! ### The first line of a literal -/

theorem firstLine_string (s : String) (rest : List Char) :
    firstLine (valueText options depth (.string s) ++ rest) =
      '"' :: (Quoted.encode s.toList ++ '"' :: firstLine rest) := by
  have hquote : '\n' ∉ '"' :: (Quoted.encode s.toList ++ ['"']) := by
    simp [Quoted.newline_not_mem_encode]
  have htext : valueText options depth (.string s) = '"' :: (Quoted.encode s.toList ++ ['"']) :=
    String.toList_ofList
  rw [htext, firstLine_append hquote]
  simp

theorem not_mem_firstLine_of_endsItem (hrest : EndsItem rest) {c : Char} (hc : c ≠ ',') :
    c ∉ firstLine rest := by
  rcases hrest.firstLine_eq with h | h
  · simp [h]
  · simp [h, hc]

/-- Strings are the only literals with colons or quotes on their first line. -/
theorem not_mem_firstLine (habsent : options.absent = "()") (hv : Readable v)
    (hstring : Shape.ofValue v ≠ .quoted) (hrest : EndsItem rest) (depth : Nat) :
    ':' ∉ firstLine (valueText options depth v ++ rest) ∧
      '"' ∉ firstLine (valueText options depth v ++ rest) := by
  have hcolon : ':' ∉ firstLine rest := not_mem_firstLine_of_endsItem hrest (by decide)
  have hquote : '"' ∉ firstLine rest := not_mem_firstLine_of_endsItem hrest (by decide)
  have htoken (hshape : Shape.ofValue v = .absent ∨ Shape.ofValue v = .number ∨
      Shape.ofValue v = .word) :
      ':' ∉ firstLine (valueText options depth v ++ rest) ∧
        '"' ∉ firstLine (valueText options depth v ++ rest) := by
    have hparts := tokenPart_of_mem_valueText habsent hv hshape depth
    have hline : '\n' ∉ valueText options depth v := fun h => (hparts _ h).2.1 rfl
    rw [firstLine_append hline]
    simp only [List.mem_append, not_or]
    exact ⟨⟨fun h => (hparts _ h).2.2.1 rfl, hcolon⟩, fun h => (hparts _ h).2.2.2 rfl, hquote⟩
  cases hkind : Shape.ofValue v with
  | absent => exact htoken (.inl hkind)
  | number => exact htoken (.inr (.inl hkind))
  | word => exact htoken (.inr (.inr hkind))
  | quoted => exact absurd hkind hstring
  | array =>
      obtain ⟨items, rfl⟩ := Shape.eq_of_array hkind
      rw [valueText_array]
      constructor
      · intro hmem
        simpa [hcolon] using mem_firstLine_block (by decide) (by decide) hmem
      · intro hmem
        simpa [hquote] using mem_firstLine_block (by decide) (by decide) hmem
  | object =>
      obtain ⟨entries, rfl⟩ := Shape.eq_of_object hkind
      rw [valueText_object]
      constructor
      · intro hmem
        simpa [hcolon] using mem_firstLine_block (by decide) (by decide) hmem
      · intro hmem
        simpa [hquote] using mem_firstLine_block (by decide) (by decide) hmem

/-- Behind a colon and a blank on the first line of a literal, no other literal begins. -/
theorem valueText_ne_append (habsent : options.absent = "()") (hv : Readable v) (hw : Readable w)
    (hrest : EndsItem rest) (hrest' : EndsItem rest') {front : List Char} (hfront : '\n' ∉ front) :
    valueText options depth v ++ rest ≠
      front ++ ':' :: ' ' :: (valueText options depth w ++ rest') := by
  intro h
  have hline : firstLine (valueText options depth v ++ rest) =
      front ++ ':' :: ' ' :: firstLine (valueText options depth w ++ rest') := by
    rw [h, firstLine_append hfront]
    rfl
  have hvstring : Shape.ofValue v = .quoted := by
    by_contra hother
    have hcolon := (not_mem_firstLine habsent hv hother hrest depth).1
    simp [hline] at hcolon
  obtain ⟨s, rfl⟩ := Shape.eq_of_quoted hvstring
  -- So the other literal begins behind a blank of the string `s`, and goes on to its end.
  obtain ⟨ds, hds⟩ : ∃ ds, firstLine (valueText options depth w ++ rest') =
      Quoted.encode ds ++ '"' :: firstLine rest := by
    rw [firstLine_string] at hline
    apply Quoted.exists_of_quoted_eq (not_mem_firstLine_of_endsItem hrest (by decide))
    rw [hline, List.append_cons]
  have hwstring : Shape.ofValue w = .quoted := by
    by_contra hother
    have hquote := (not_mem_firstLine habsent hw hother hrest' depth).2
    simp [hds] at hquote
  obtain ⟨t, rfl⟩ := Shape.eq_of_quoted hwstring
  rw [firstLine_string] at hds
  have hempty : Quoted.encode [] ++ '"' :: (Quoted.encode t.toList ++ '"' :: firstLine rest') =
      Quoted.encode ds ++ '"' :: firstLine rest := hds
  obtain ⟨-, hrests⟩ := Json.encode_append_inj hempty
  have hquote : '"' ∉ firstLine rest := not_mem_firstLine_of_endsItem hrest (by decide)
  simp [← hrests] at hquote

/-! ### Lines of bare keys -/

theorem eq_nil_of_line_eq (habsent : options.absent = "()") (hv : Readable v) (hw : Readable w)
    (hrest : EndsItem rest) (hrest' : EndsItem rest') {more : List Char}
    (hmore : ∀ back, more = ':' :: ' ' :: back → '\n' ∉ back)
    (h : ':' :: ' ' :: (valueText options depth v ++ rest) =
      more ++ ':' :: ' ' :: (valueText options depth w ++ rest')) : more = [] := by
  match more with
  | [] => rfl
  | [c] => simp at h
  | c :: d :: front =>
      simp only [List.cons_append, List.cons.injEq] at h
      obtain ⟨rfl, rfl, h⟩ := h
      exact absurd h (valueText_ne_append habsent hv hw hrest hrest' (hmore front rfl))

/-- A key without a line end behind a colon and a blank can be told from the literal behind it. -/
theorem tellsKeys_of_not_quotes (hquotes : options.quotes = false)
    (habsent : options.absent = "()") : TellsKeys options OneLine := by
  intro key key' v w depth rest rest' hkey hkey' hv hw hrest hrest' h
  have hbare (key : String) : keyText options key = key.toList := by simp [keyText, hquotes]
  rw [hbare, hbare] at h
  -- One of the keys goes on where the other one ends; what it has more must be empty.
  suffices hlists : key.toList = key'.toList by
    rw [hlists] at h
    exact ⟨String.toList_inj.mp hlists, by simpa using h⟩
  rcases List.append_eq_append_iff.mp h with ⟨more, hlonger, hline⟩ | ⟨more, hlonger, hline⟩
  · obtain rfl := eq_nil_of_line_eq habsent hv hw hrest hrest'
      (fun back hmore => hkey' key.toList back (hmore ▸ hlonger)) hline
    simpa using hlonger.symm
  · obtain rfl := eq_nil_of_line_eq habsent hw hv hrest' hrest
      (fun back hmore => hkey key'.toList back (hmore ▸ hlonger)) hline
    simpa using hlonger

/-- With bare keys and the empty tuple for what is absent, values of the same literal are equal up
to the order of entries, the sign of a zero, and what looks like `null`, if none of their keys has a
line end behind a colon and a blank. -/
theorem visible_same_of_render_eq_bare (hquotes : options.quotes = false)
    (habsent : options.absent = "()") (hv : v.WellFormed) (hw : w.WellFormed)
    (hvreferences : v.EveryReference Bareword) (hwreferences : w.EveryReference Bareword)
    (hvkeys : v.EveryKey OneLine) (hwkeys : w.EveryKey OneLine)
    (h : render options v = render options w) : v.visible.same w.visible = true := by
  have hliteral := render_eq_iff.mp h
  have htext : valueText options 0 v ++ [] = valueText options 0 w ++ [] := by rw [hliteral]
  exact (unambiguousAmong habsent (tellsKeys_of_not_quotes hquotes habsent) v w 0 [] []
    ⟨hv, hvreferences⟩ ⟨hw, hwreferences⟩ hvkeys hwkeys endsItem_nil endsItem_nil htext).1

/-- Commas, colons and brackets in a key do no harm, nor does a line end without a colon before
it. -/
theorem visible_same_of_render_eq_bare_odd_keys :
    render ⟨false, "()", ""⟩ (.object [("b,\n]", .array [.unknown]), ("a: [", .number .nan)]) =
        render ⟨false, "()", ""⟩ (.object [("a: [", .unknown), ("b,\n]", .array [.null])]) ∧
      (Value.object [("b,\n]", .array [.unknown]), ("a: [", .number .nan)]).visible.same
        (Value.object [("a: [", .unknown), ("b,\n]", .array [.null])]).visible = true := by
  have hliteral :
      render ⟨false, "()", ""⟩ (.object [("b,\n]", .array [.unknown]), ("a: [", .number .nan)]) =
        render ⟨false, "()", ""⟩ (.object [("a: [", .unknown), ("b,\n]", .array [.null])]) := by
    apply render_eq_iff.mpr
    rw [valueText_object, valueText_object, Entries.sorted_eq_of_perm (by decide) (.swap ..)
      (by decide), Entries.sorted_eq_of_perm (by decide) (.refl _) (by decide)]
    rfl
  have hcolon : OneLine "a: [" := oneLine_of_not_mem (by decide)
  have hnewline : OneLine "b,\n]" := by
    intro front back hkey
    have hmem : ':' ∈ "b,\n]".toList := by simp [hkey]
    exact absurd hmem (by decide)
  refine ⟨hliteral, visible_same_of_render_eq_bare rfl rfl ?_ ?_ ?_ ?_ ?_ ?_ hliteral⟩
  · simp [WellFormed, EntriesWellFormed, AllWellFormed]
  · simp [WellFormed, EntriesWellFormed, AllWellFormed]
  · simp [EveryReference, EntriesEveryReference, ItemsEveryReference]
  · simp [EveryReference, EntriesEveryReference, ItemsEveryReference]
  · simp [EveryKey, EntriesEveryKey, ItemsEveryKey, hcolon, hnewline]
  · simp [EveryKey, EntriesEveryKey, ItemsEveryKey, hcolon, hnewline]

/-- A bare key that spells a line of a map is taken for the line: two entries have the literal of
one. -/
theorem render_eq_of_spelled_line :
    (Value.object [("a", .null), ("b", .null)]).WellFormed ∧
      (Value.object [("a: (),\n  b", .null)]).WellFormed ∧
      (Value.object [("a", .null), ("b", .null)]).EveryReference (fun _ => False) ∧
      (Value.object [("a: (),\n  b", .null)]).EveryReference (fun _ => False) ∧
      render .standard (.object [("a", .null), ("b", .null)]) =
        render .standard (.object [("a: (),\n  b", .null)]) ∧
      (Value.object [("a", .null), ("b", .null)]).visible.same
        (Value.object [("a: (),\n  b", .null)]).visible = false := by
  refine ⟨?_, ?_, ?_, ?_, ?_, by decide +kernel⟩
  · simp [WellFormed, EntriesWellFormed]
  · simp [WellFormed, EntriesWellFormed]
  · simp [EveryReference, EntriesEveryReference]
  · simp [EveryReference, EntriesEveryReference]
  · apply render_eq_iff.mpr
    rw [valueText_object, valueText_object, Entries.sorted_eq_of_perm (by decide) (.refl _)
      (by decide), Entries.sorted_eq_of_perm (by decide) (.refl _) (by decide)]
    rfl

end SnippetBridge.Rhai
