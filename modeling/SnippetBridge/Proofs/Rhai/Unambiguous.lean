import SnippetBridge.Proofs.DottedPath
import SnippetBridge.Proofs.Json.Quoted
import SnippetBridge.Proofs.Rhai.Literal
import SnippetBridge.Proofs.Text.Block
import SnippetBridge.Proofs.Value.Visible

/-!
Literals with quoted keys lose nothing but what has no literal. The first character of a literal
tells its shape. Strings end at their closing quote, blocks at their closing bracket, and every
other literal is a single token, which ends before a comma or a line end; so a literal is told apart
from every other one even if more text follows.
-/

namespace SnippetBridge.Rhai

open Value Text

/-! ### Shapes -/

inductive Shape where
  | absent
  | quoted
  | number
  | word
  | array
  | object
  deriving DecidableEq

namespace Shape

/-- The shape of the literals that start with a character. -/
def ofHead (c : Char) : Shape :=
  if c = '(' then .absent
  else if c = '"' then .quoted
  else if c = '[' then .array
  else if c = '#' then .object
  else if c.isDigit ∨ c = '-' then .number
  else .word

/-- The shape of the literal of a value. -/
def ofValue : Value → Shape
  | .null => .absent
  | .unknown => .absent
  | .bool _ => .word
  | .number x => if x.isFinite then .number else .absent
  | .string _ => .quoted
  | .array _ => .array
  | .object _ => .object
  | .reference _ => .word

theorem ofHead_digit {c : Char} (h : c.isDigit) : ofHead c = .number := by
  have hother : c ≠ '(' ∧ c ≠ '"' ∧ c ≠ '[' ∧ c ≠ '#' := by
    refine ⟨?_, ?_, ?_, ?_⟩
    all_goals
      rintro rfl
      simp at h
  simp [ofHead, hother, h]

theorem ofHead_nameStart {c : Char} (h : DottedPath.isNameStart c = true) : ofHead c = .word := by
  have hlow : c.toNat < 0x41 → c = '$' := by
    intro hlt
    by_contra hdollar
    rw [DottedPath.isNameStart_of_lt hlt hdollar] at h
    cases h
  have hbracket : c ≠ '[' := by
    rintro rfl
    exact absurd h (by decide +kernel)
  have hdigit : ¬c.isDigit := by
    intro hdigit
    have hrange : 48 ≤ c.toNat ∧ c.toNat ≤ 57 := Char.isDigit_iff_toNat.mp hdigit
    rw [hlow (by omega)] at hdigit
    cases hdigit
  have hother : c ≠ '(' ∧ c ≠ '"' ∧ c ≠ '#' ∧ c ≠ '-' := by
    refine ⟨?_, ?_, ?_, ?_⟩
    all_goals
      rintro rfl
      simp at hlow
  simp [ofHead, hother, hbracket, hdigit]

theorem ofValue_number_ne {x : Binary64} {shape : Shape} (hnumber : shape ≠ .number)
    (habsent : shape ≠ .absent) : ofValue (.number x) ≠ shape := by
  rw [ofValue]
  split
  · exact hnumber.symm
  · exact habsent.symm

/-! A shape leaves few values to look at. -/

variable {v : Value}

theorem eq_of_number (h : ofValue v = .number) : ∃ x, v = .number x ∧ x.isFinite = true := by
  cases v with
  | number x =>
      refine ⟨x, rfl, ?_⟩
      by_contra hinfinite
      rw [ofValue, if_neg hinfinite] at h
      cases h
  | _ => cases h

theorem eq_of_word (h : ofValue v = .word) :
    (∃ b, v = .bool b) ∨ ∃ path, v = .reference path := by
  cases v with
  | bool b => exact .inl ⟨b, rfl⟩
  | reference path => exact .inr ⟨path, rfl⟩
  | number x => exact absurd h (ofValue_number_ne (by decide) (by decide))
  | _ => cases h

theorem eq_of_quoted (h : ofValue v = .quoted) : ∃ s, v = .string s := by
  cases v with
  | string s => exact ⟨s, rfl⟩
  | number x => exact absurd h (ofValue_number_ne (by decide) (by decide))
  | _ => cases h

theorem eq_of_array (h : ofValue v = .array) : ∃ items, v = .array items := by
  cases v with
  | array items => exact ⟨items, rfl⟩
  | number x => exact absurd h (ofValue_number_ne (by decide) (by decide))
  | _ => cases h

theorem eq_of_object (h : ofValue v = .object) : ∃ entries, v = .object entries := by
  cases v with
  | object entries => exact ⟨entries, rfl⟩
  | number x => exact absurd h (ofValue_number_ne (by decide) (by decide))
  | _ => cases h

end Shape

/-! ### Values that can be told apart -/

/-- A path that is not taken for a literal of another kind. -/
def Bareword (path : String) : Prop :=
  DottedPath.isWellFormed path = true ∧ path ≠ "true" ∧ path ≠ "false"

/-- A value without repeated keys whose references look like references. -/
structure Readable (v : Value) : Prop where
  wellFormed : v.WellFormed
  barewords : v.EveryReference Bareword

theorem Readable.item {items : List Value} (h : Readable (.array items)) {item : Value}
    (hitem : item ∈ items) : Readable item :=
  ⟨allWellFormed_iff.mp h.wellFormed item hitem, itemsEveryReference_iff.mp h.barewords item hitem⟩

theorem Readable.entry {entries : List (String × Value)} (h : Readable (.object entries))
    {entry : String × Value} (hentry : entry ∈ entries) : Readable entry.2 :=
  ⟨entriesWellFormed_iff.mp h.wellFormed.2 entry hentry,
    entriesEveryReference_iff.mp h.barewords entry hentry⟩

theorem Readable.bareword {path : String} (h : Readable (.reference path)) : Bareword path :=
  h.barewords

/-- Literals with quoted keys and the empty tuple for what is absent. -/
structure Options.Quoting (options : Options) : Prop where
  quotes : options.quotes = true
  absent : options.absent = "()"

variable {options : Options} {depth : Nat} {v w : Value}

theorem toList_absent (habsent : options.absent = "()") :
    options.absent.toList = ['(', ')'] := by
  rw [habsent]
  rfl

/-- A literal starts with a character of its shape. -/
theorem valueText_eq_cons (habsent : options.absent = "()") (hv : Readable v) (depth : Nat) :
    ∃ c cs, valueText options depth v = c :: cs ∧ Shape.ofHead c = .ofValue v := by
  have habsent := toList_absent habsent
  cases v with
  | null => exact ⟨_, _, habsent, rfl⟩
  | unknown => exact ⟨_, _, habsent, rfl⟩
  | bool b => cases b <;> exact ⟨_, _, rfl, rfl⟩
  | number x =>
      show ∃ c cs, numberText options x = c :: cs ∧ Shape.ofHead c = .ofValue (.number x)
      rw [Shape.ofValue]
      split
      · rename_i hfinite
        obtain ⟨c, cs, hplain, hc, -⟩ :=
          Binary64.plain_eq_cons (Binary64.isFinite_unsignedZero hfinite)
        rw [numberText_of_isFinite options hfinite]
        refine ⟨c, cs, hplain, ?_⟩
        rcases hc with hdigit | rfl
        · exact Shape.ofHead_digit hdigit
        · rfl
      · rename_i hinfinite
        rw [numberText, if_pos hinfinite]
        exact ⟨_, _, habsent, rfl⟩
  | string s => exact ⟨'"', _, String.toList_ofList, rfl⟩
  | array items =>
      rw [valueText_array, block]
      split <;> exact ⟨_, _, rfl, rfl⟩
  | object entries =>
      rw [valueText_object, block]
      split <;> exact ⟨_, _, rfl, rfl⟩
  | reference path =>
      obtain ⟨c, cs, htext, hc, -⟩ := DottedPath.toList_of_isWellFormed hv.bareword.1
      exact ⟨c, cs, htext, Shape.ofHead_nameStart hc⟩

/-- A character that no single token is taken apart at. -/
def TokenPart (c : Char) : Prop := c ≠ ',' ∧ c ≠ '\n' ∧ c ≠ ':' ∧ c ≠ '"'

instance : DecidablePred TokenPart := fun c =>
  inferInstanceAs (Decidable (c ≠ ',' ∧ c ≠ '\n' ∧ c ≠ ':' ∧ c ≠ '"'))

theorem TokenPart.not_separator {c : Char} (h : TokenPart c) : c ≠ ',' ∧ c ≠ '\n' := ⟨h.1, h.2.1⟩

theorem tokenPart_of_isDigit {c : Char} (h : c.isDigit) : TokenPart c := by
  refine ⟨?_, ?_, ?_, ?_⟩
  all_goals
    rintro rfl
    simp at h

theorem tokenPart_of_isNamePart {c : Char} (h : DottedPath.isNamePart c = true) : TokenPart c := by
  refine ⟨?_, ?_, ?_, ?_⟩
  all_goals
    rintro rfl
    exact absurd h (by decide +kernel)

/-- The literals that are single tokens hold no separators, colons and quotes. -/
theorem tokenPart_of_mem_valueText (habsent : options.absent = "()") (hv : Readable v)
    (hshape : Shape.ofValue v = .absent ∨ Shape.ofValue v = .number ∨ Shape.ofValue v = .word)
    (depth : Nat) : ∀ c ∈ valueText options depth v, TokenPart c := by
  have habsent : ∀ c ∈ options.absent.toList, TokenPart c := by
    rw [toList_absent habsent]
    simp [TokenPart]
  cases v with
  | null => exact habsent
  | unknown => exact habsent
  | bool b =>
      show ∀ c ∈ Json.boolText b, TokenPart c
      cases b <;> simp [Json.boolText, TokenPart]
  | number x =>
      show ∀ c ∈ numberText options x, TokenPart c
      by_cases hfinite : x.isFinite = true
      · obtain ⟨c, cs, hplain, hc, hcs⟩ :=
          Binary64.plain_eq_cons (Binary64.isFinite_unsignedZero hfinite)
        rw [numberText_of_isFinite options hfinite, hplain]
        refine List.forall_mem_cons.mpr ⟨?_, fun d hd => ?_⟩
        · rcases hc with hdigit | rfl
          · exact tokenPart_of_isDigit hdigit
          · decide
        · rcases hcs d hd with hdigit | rfl
          · exact tokenPart_of_isDigit hdigit
          · decide
      · rw [numberText, if_pos hfinite]
        exact habsent
  | string s => simp [Shape.ofValue] at hshape
  | array items => simp [Shape.ofValue] at hshape
  | object entries => simp [Shape.ofValue] at hshape
  | reference path =>
      obtain ⟨c, cs, -, -, hparts⟩ := DottedPath.toList_of_isWellFormed hv.bareword.1
      intro d hd
      rcases hparts d hd with rfl | hpart
      · decide
      · exact tokenPart_of_isNamePart hpart

/-! ### Telling values apart -/

theorem visible_of_absent (hv : Shape.ofValue v = .absent) : v.visible = .null := by
  cases v with
  | null => rfl
  | unknown => rfl
  | number x =>
      rw [visible, if_neg]
      intro hfinite
      simp [Shape.ofValue, hfinite] at hv
  | _ => cases hv

theorem looksLike_of_absent (hv : Shape.ofValue v = .absent) (hw : Shape.ofValue w = .absent) :
    LooksLike v w := by
  rw [LooksLike, visible_of_absent hv, visible_of_absent hw]
  rfl

theorem looksLike_of_number {x y : Binary64} (hx : x.isFinite) (hy : y.isFinite)
    (h : numberText options x = numberText options y) : LooksLike (.number x) (.number y) := by
  rw [numberText_of_isFinite options hx, numberText_of_isFinite options hy] at h
  have hsame : x.unsignedZero = y.unsignedZero :=
    Binary64.plain_injective (Binary64.isFinite_unsignedZero hx)
      (Binary64.isFinite_unsignedZero hy) (String.toList_inj.mp h)
  rw [LooksLike, visible, visible, if_pos hx, if_pos hy]
  exact Binary64.same_of_unsignedZero_eq hx hy hsame

theorem boolText_ne_bareword {path : String} (h : Bareword path) (b : Bool) :
    Json.boolText b ≠ path.toList := by
  intro htext
  cases b with
  | true => exact h.2.1 (String.toList_inj.mp htext.symm)
  | false => exact h.2.2 (String.toList_inj.mp htext.symm)

theorem looksLike_of_word (hv : Readable v) (hw : Readable w) (hvword : Shape.ofValue v = .word)
    (hwword : Shape.ofValue w = .word)
    (h : valueText options depth v = valueText options depth w) : LooksLike v w := by
  rcases Shape.eq_of_word hvword with ⟨a, rfl⟩ | ⟨p, rfl⟩
  · rcases Shape.eq_of_word hwword with ⟨b, rfl⟩ | ⟨q, rfl⟩
    · have htext : Json.boolText a = Json.boolText b := h
      cases a <;> cases b <;> first | rfl | cases htext
    · exact absurd h (boolText_ne_bareword hw.bareword a)
  · rcases Shape.eq_of_word hwword with ⟨b, rfl⟩ | ⟨q, rfl⟩
    · exact absurd h.symm (boolText_ne_bareword hv.bareword b)
    · obtain rfl : p = q := String.toList_inj.mp h
      simp [LooksLike, visible, same]

variable {rest rest' : List Char}

/-- Literals of two values that are single tokens. -/
theorem token_of_shape (habsent : options.absent = "()") (hv : Readable v) (hw : Readable w)
    (hshape : Shape.ofValue v = .ofValue w)
    (htoken : Shape.ofValue v = .absent ∨ Shape.ofValue v = .number ∨ Shape.ofValue v = .word)
    (hrest : EndsItem rest) (hrest' : EndsItem rest')
    (h : valueText options depth v ++ rest = valueText options depth w ++ rest') :
    LooksLike v w ∧ rest = rest' := by
  have hvparts := tokenPart_of_mem_valueText habsent hv htoken depth
  have hwparts := tokenPart_of_mem_valueText habsent hw (hshape ▸ htoken) depth
  obtain ⟨htext, hrests⟩ := token_append_inj (fun c hc => (hvparts c hc).not_separator)
    (fun c hc => (hwparts c hc).not_separator) hrest hrest' h
  refine ⟨?_, hrests⟩
  rcases htoken with habsent | hnumber | hword
  · exact looksLike_of_absent habsent (hshape ▸ habsent)
  · obtain ⟨x, rfl, hx⟩ := Shape.eq_of_number hnumber
    obtain ⟨y, rfl, hy⟩ := Shape.eq_of_number (hshape ▸ hnumber)
    exact looksLike_of_number hx hy htext
  · exact looksLike_of_word hv hw hword (hshape ▸ hword) htext

theorem quote_append_inj {s t : String}
    (h : (quote s).toList ++ rest = (quote t).toList ++ rest') : s = t ∧ rest = rest' := by
  have hquoted (s : String) (rest : List Char) :
      (quote s).toList ++ rest = '"' :: (Quoted.encode s.toList ++ '"' :: rest) := by
    rw [quote, String.toList_ofList]
    simp
  rw [hquoted, hquoted, List.cons.injEq] at h
  obtain ⟨hstring, hrests⟩ := Json.encode_append_inj h.2
  exact ⟨String.toList_inj.mp hstring, hrests⟩

/-- Keys that can be told from the literals behind them, if they have a property. -/
def TellsKeys (options : Options) (p : String → Prop) : Prop :=
  ∀ key key' v w depth rest rest', p key → p key' → Readable v → Readable w →
    EndsItem rest → EndsItem rest' →
    keyText options key ++ ':' :: ' ' :: (valueText options depth v ++ rest) =
      keyText options key' ++ ':' :: ' ' :: (valueText options depth w ++ rest') →
    key = key' ∧ valueText options depth v ++ rest = valueText options depth w ++ rest'

/-- A value that can be told by its literal from all values whose keys have a property. -/
def UnambiguousAmong (options : Options) (p : String → Prop) (v : Value) : Prop :=
  ∀ w depth rest rest', Readable v → Readable w → v.EveryKey p → w.EveryKey p →
    EndsItem rest → EndsItem rest' →
    valueText options depth v ++ rest = valueText options depth w ++ rest' →
      LooksLike v w ∧ rest = rest'

variable {p : String → Prop}

theorem shape_eq_of_append (habsent : options.absent = "()") (hv : Readable v) (hw : Readable w)
    (h : valueText options depth v ++ rest = valueText options depth w ++ rest') :
    Shape.ofValue v = .ofValue w := by
  obtain ⟨c, cs, hvtext, hc⟩ := valueText_eq_cons habsent hv depth
  obtain ⟨d, ds, hwtext, hd⟩ := valueText_eq_cons habsent hw depth
  rw [hvtext, hwtext, List.cons_append, List.cons_append, List.cons.injEq] at h
  rw [← hc, ← hd, h.1]

theorem unambiguous_array (habsent : options.absent = "()") {items : List Value}
    (ih : ∀ item ∈ items, UnambiguousAmong options p item) :
    UnambiguousAmong options p (.array items) := by
  intro w depth rest rest' hv hw hvkeys hwkeys hrest hrest' h
  obtain ⟨items', rfl⟩ := Shape.eq_of_array (shape_eq_of_append habsent hv hw h).symm
  rw [valueText_array, valueText_array] at h
  have hitems : Distinct (valueText options (depth + 1)) LooksLike items items' :=
    fun item hitem item' hitem' rest rest' => ih item hitem item' (depth + 1) rest rest'
      (hv.item hitem) (hw.item hitem') (itemsEveryKey_iff.mp hvkeys item hitem)
      (itemsEveryKey_iff.mp hwkeys item' hitem')
  obtain ⟨hall, hrests⟩ := block_append_inj (by decide) hitems h
  exact ⟨looksLike_array hall, hrests⟩

theorem unambiguous_object (habsent : options.absent = "()") (htells : TellsKeys options p)
    {entries : List (String × Value)}
    (ih : ∀ entry ∈ entries, UnambiguousAmong options p entry.2) :
    UnambiguousAmong options p (.object entries) := by
  intro w depth rest rest' hv hw hvkeys hwkeys hrest hrest' h
  obtain ⟨entries', rfl⟩ := Shape.eq_of_object (shape_eq_of_append habsent hv hw h).symm
  rw [valueText_object, valueText_object] at h
  -- The lines stand in the order of their keys, so partners stand in the same place.
  have hlines : Distinct (entryLine options (depth + 1)) EntriesLookLike
      (Entries.sorted entries) (Entries.sorted entries') := by
    intro entry hentry entry' hentry' rest rest' hrest hrest' h
    rw [Entries.mem_sorted] at hentry hentry'
    obtain ⟨hkey, hvalue⟩ := entriesEveryKey_iff.mp hvkeys entry hentry
    obtain ⟨hkey', hvalue'⟩ := entriesEveryKey_iff.mp hwkeys entry' hentry'
    simp only [entryLine, List.append_assoc, List.cons_append] at h
    obtain ⟨hkeys, htexts⟩ := htells entry.1 entry'.1 entry.2 entry'.2 (depth + 1) rest rest'
      hkey hkey' (hv.entry hentry) (hw.entry hentry') hrest hrest' h
    obtain ⟨hlooks, hrests⟩ := ih entry hentry entry'.2 (depth + 1) rest rest'
      (hv.entry hentry) (hw.entry hentry') hvalue hvalue' hrest hrest' htexts
    exact ⟨⟨hkeys, hlooks⟩, hrests⟩
  obtain ⟨hall, hrests⟩ := block_append_inj (by decide) hlines h
  exact ⟨looksLike_object_of_sorted hw.wellFormed.1 hall, hrests⟩

theorem unambiguous_scalar (habsent : options.absent = "()") (hitems : v.items? = none)
    (hentries : v.entries? = none) : UnambiguousAmong options p v := by
  intro w depth rest rest' hv hw _ _ hrest hrest' h
  have hshape := shape_eq_of_append habsent hv hw h
  cases hkind : Shape.ofValue v with
  | absent => exact token_of_shape habsent hv hw hshape (.inl hkind) hrest hrest' h
  | number => exact token_of_shape habsent hv hw hshape (.inr (.inl hkind)) hrest hrest' h
  | word => exact token_of_shape habsent hv hw hshape (.inr (.inr hkind)) hrest hrest' h
  | quoted =>
      obtain ⟨s, rfl⟩ := Shape.eq_of_quoted hkind
      obtain ⟨t, rfl⟩ := Shape.eq_of_quoted (hshape ▸ hkind)
      obtain ⟨rfl, hrests⟩ := quote_append_inj h
      exact ⟨by simp [LooksLike, visible, same], hrests⟩
  | array =>
      obtain ⟨items, rfl⟩ := Shape.eq_of_array hkind
      cases hitems
  | object =>
      obtain ⟨entries, rfl⟩ := Shape.eq_of_object hkind
      cases hentries

/-- If keys can be told from what stands behind them, then values can be told from each other. -/
theorem unambiguousAmong (habsent : options.absent = "()") (htells : TellsKeys options p)
    (v : Value) : UnambiguousAmong options p v := by
  induction v using nested_induction with
  | array items ih => exact unambiguous_array habsent ih
  | object entries ih => exact unambiguous_object habsent htells ih
  | scalar v hitems hentries => exact unambiguous_scalar habsent hitems hentries

/-- The suffix is the same for all values, so it makes no difference. -/
theorem render_eq_iff :
    render options v = render options w ↔ valueText options 0 v = valueText options 0 w := by
  rw [← String.toList_inj, render, render, renderTree, renderTree, String.toList_append,
    String.toList_append, String.toList_ofList, String.toList_ofList]
  exact List.append_left_inj _

/-! ### Quoted keys -/

/-- Two values that can be told apart by their literals. -/
def Unambiguous (options : Options) (v : Value) : Prop :=
  ∀ w depth rest rest', Readable v → Readable w → EndsItem rest → EndsItem rest' →
    valueText options depth v ++ rest = valueText options depth w ++ rest' →
      LooksLike v w ∧ rest = rest'

theorem tellsKeys_of_quotes (hquotes : options.quotes = true) :
    TellsKeys options fun _ => True := by
  intro key key' v w depth rest rest' _ _ _ _ _ _ h
  simp only [keyText, hquotes, if_true] at h
  obtain ⟨hkey, htail⟩ := quote_append_inj h
  simp only [List.cons.injEq, true_and] at htail
  exact ⟨hkey, htail⟩

theorem everyKey_of_forall (h : ∀ key, p key) (v : Value) : v.EveryKey p := by
  induction v using nested_induction with
  | array items ih => exact itemsEveryKey_iff.mpr ih
  | object entries ih =>
      exact entriesEveryKey_iff.mpr fun entry hentry => ⟨h entry.1, ih entry hentry⟩
  | scalar v hitems hentries =>
      cases v with
      | array items => cases hitems
      | object entries => cases hentries
      | _ => trivial

theorem unambiguous (hoptions : options.Quoting) (v : Value) : Unambiguous options v :=
  fun w depth rest rest' hv hw => unambiguousAmong hoptions.absent
    (tellsKeys_of_quotes hoptions.quotes) v w depth rest rest' hv hw
    (everyKey_of_forall (fun _ => trivial) v) (everyKey_of_forall (fun _ => trivial) w)

/-- With quoted keys and the empty tuple for what is absent, values of the same literal are equal up
to the order of entries, the sign of a zero, and what looks like `null`. -/
theorem visible_same_of_render_eq (hquotes : options.quotes = true)
    (habsent : options.absent = "()") (hv : v.WellFormed) (hw : w.WellFormed)
    (hvreferences : v.EveryReference Bareword) (hwreferences : w.EveryReference Bareword)
    (h : render options v = render options w) : v.visible.same w.visible = true := by
  have hliteral : valueText options 0 v = valueText options 0 w := by
    have hlist := congrArg String.toList h
    rw [render, render, renderTree, renderTree, String.toList_append, String.toList_append,
      String.toList_ofList, String.toList_ofList] at hlist
    exact List.append_cancel_right hlist
  have htext : valueText options 0 v ++ [] = valueText options 0 w ++ [] := by rw [hliteral]
  exact (unambiguous ⟨hquotes, habsent⟩ v w 0 [] [] ⟨hv, hvreferences⟩ ⟨hw, hwreferences⟩
    endsItem_nil endsItem_nil htext).1

/-- A value that was not understood and `null` have the same literal, inside of others too. -/
theorem visible_same_of_render_eq_unknown :
    render ⟨true, "()", ";"⟩ (.object [("a", .array [.unknown, .reference "x.y"])]) =
        render ⟨true, "()", ";"⟩ (.object [("a", .array [.null, .reference "x.y"])]) ∧
      (Value.object [("a", .array [.unknown, .reference "x.y"])]).visible.same
        (Value.object [("a", .array [.null, .reference "x.y"])]).visible = true := by
  have hliteral : render ⟨true, "()", ";"⟩ (.object [("a", .array [.unknown, .reference "x.y"])]) =
      render ⟨true, "()", ";"⟩ (.object [("a", .array [.null, .reference "x.y"])]) := by
    decide +kernel
  have hpath : Bareword "x.y" := ⟨by decide +kernel, by decide, by decide⟩
  refine ⟨hliteral, visible_same_of_render_eq rfl rfl ?_ ?_ ?_ ?_ hliteral⟩
  · simp [WellFormed, EntriesWellFormed, AllWellFormed]
  · simp [WellFormed, EntriesWellFormed, AllWellFormed]
  · simp [EveryReference, EntriesEveryReference, ItemsEveryReference, hpath]
  · simp [EveryReference, EntriesEveryReference, ItemsEveryReference, hpath]

end SnippetBridge.Rhai
