import Mathlib.Data.List.Basic
import SnippetBridge.Proofs.Value.Decidable
import SnippetBridge.TypeScript.Source

/-!
The ways to write a string as a literal. A character stands for itself, or for it stands an escape
sequence; line continuations may stand anywhere and stand for nothing. Of all these only one is not
read as what it stands for: a character behind `0xFFFF` that is written as two escapes, one for each
half of a surrogate pair. Escapes are decoded one by one, and neither half is a character.
-/

namespace SnippetBridge.TypeScript

open Text

/-! ### Digits -/

theorem isDigitOf_of_numeralFrom? {base acc n : Nat} {digits : List Char}
    (h : numeralFrom? base acc digits = some n) : ∀ c ∈ digits, isDigitOf base c := by
  induction digits generalizing acc with
  | nil => simp
  | cons c digits ih =>
      rw [numeralFrom?, Option.bind_eq_bind, Option.bind_eq_some_iff] at h
      obtain ⟨digit, hdigit, h⟩ := h
      split at h
      · next hlt =>
          refine List.forall_mem_cons.mpr ⟨?_, ih h⟩
          simpa [isDigitOf, hdigit] using hlt
      · contradiction

theorem isDigitOf_of_numeral? {base n : Nat} {digits : List Char}
    (h : numeral? base digits = some n) : ∀ c ∈ digits, isDigitOf base c := by
  cases digits with
  | nil => contradiction
  | cons c digits => exact isDigitOf_of_numeralFrom? h

namespace Escape

/-! ### Escape sequences -/

/-- The character that a letter behind a backslash stands for. -/
def letter? : Char → Option Char
  | 'b' => some '\x08'
  | 't' => some '\t'
  | 'n' => some '\n'
  | 'v' => some '\x0b'
  | 'f' => some '\x0c'
  | 'r' => some '\r'
  | _ => none

/-- Whether a character stands for itself behind a backslash. All do but digits, line ends and the
letters with a meaning of their own. -/
def isIdentity (c : Char) : Bool :=
  !c.isDigit &&
    !(['b', 't', 'n', 'v', 'f', 'r', 'x', 'u', '\n', '\r', '\u2028', '\u2029'].contains c)

/-- The escape sequences that stand for a character. -/
inductive Writes : List Char → Char → Prop where
  | letter {l c : Char} (h : letter? l = some c) : Writes ['\\', l] c
  | identity {c : Char} (h : isIdentity c) : Writes ['\\', c] c
  | null : Writes ['\\', '0'] '\x00'
  | byte {digits : List Char} {c : Char} (hlength : digits.length = 2)
      (h : numeral? 16 digits = some c.toNat) : Writes ('\\' :: 'x' :: digits) c
  | word {digits : List Char} {c : Char} (hlength : digits.length = 4)
      (h : numeral? 16 digits = some c.toNat) : Writes ('\\' :: 'u' :: digits) c
  | braced {digits : List Char} {c : Char} (h : numeral? 16 digits = some c.toNat) :
      Writes ('\\' :: 'u' :: '{' :: digits ++ ['}']) c

/-- A backslash and a line end. It continues a literal on the next line and stands for nothing. -/
def continuations : List (List Char) :=
  [['\\', '\n'], ['\\', '\r'], ['\\', '\r', '\n'], ['\\', '\u2028'], ['\\', '\u2029']]

/-- Two rows of four digits by which a character behind `0xFFFF` is written, each as the code of one
half of a surrogate pair. -/
def WritesPair (high low : List Char) (c : Char) : Prop :=
  high.length = 4 ∧ low.length = 4 ∧
    ∃ h l, numeral? 16 high = some (0xD800 + h) ∧ numeral? 16 low = some (0xDC00 + l) ∧
      h < 0x400 ∧ l < 0x400 ∧ c.toNat = 0x10000 + 0x400 * h + l

theorem character?_toNat (c : Char) : character? c.toNat = some c := by
  have hvalid : c.toNat.isValidChar := c.valid
  rw [character?, if_pos hvalid, Char.ofNat_toNat]

theorem character?_surrogate {n : Nat} (hlow : 0xD800 ≤ n) (hhigh : n < 0xE000) :
    character? n = none := by
  rw [character?, if_neg]
  rintro (h | ⟨h, -⟩) <;> omega

theorem coded?_of_numeral? {base : Nat} {digits : List Char} {c : Char}
    (h : numeral? base digits = some c.toNat) : coded? base digits = some c := by
  rw [coded?, h]
  exact character?_toNat c

theorem dropWhile_eq_self {brace : Char} {cs : List Char} (h : ∀ c ∈ cs, c ≠ brace) :
    cs.dropWhile (· == brace) = cs := by
  cases cs with
  | nil => rfl
  | cons c cs => rw [List.dropWhile_cons_of_neg (by simpa using h c List.mem_cons_self)]

theorem ne_of_isDigitOf {brace : Char} {digits : List Char} (h : ∀ c ∈ digits, isDigitOf 16 c)
    (hbrace : isDigitOf 16 brace = false) : ∀ c ∈ digits, c ≠ brace := by
  rintro c hc rfl
  simp [h c hc] at hbrace

/-- Braces are taken off from around digits if there are any. -/
theorem unbraced_digits {digits : List Char} (h : ∀ c ∈ digits, isDigitOf 16 c) :
    unbraced digits = digits ∧ unbraced ('{' :: digits ++ ['}']) = digits := by
  have hopening : ∀ c ∈ digits, c ≠ '{' := ne_of_isDigitOf h (by decide)
  have hclosing : ∀ c ∈ digits, c ≠ '}' := ne_of_isDigitOf h (by decide)
  have hback : (digits.reverse.dropWhile (· == '}')).reverse = digits := by
    rw [dropWhile_eq_self (by simpa using hclosing), List.reverse_reverse]
  constructor
  · rw [unbraced, dropWhile_eq_self hopening, hback]
  · have hfront : ∀ c ∈ digits ++ ['}'], c ≠ '{' :=
      List.forall_mem_append.mpr ⟨hopening, by simp⟩
    rw [unbraced, List.cons_append, List.dropWhile_cons_of_pos (by rfl), dropWhile_eq_self hfront,
      List.reverse_append, List.reverse_singleton, List.singleton_append,
      List.dropWhile_cons_of_pos (by rfl), hback]

theorem decode_identity {c : Char} (h : isIdentity c) : decode ['\\', c] = [c] := by
  have hoctal : ¬('0' ≤ c ∧ c ≤ '7') := by
    rintro ⟨hlow, hhigh⟩
    have hdigit : c.isDigit := by
      rw [Char.isDigit, Bool.and_eq_true, decide_eq_true_iff, decide_eq_true_iff]
      exact ⟨hlow, Char.le_trans hhigh (by decide)⟩
    simp [isIdentity, hdigit] at h
  simp only [isIdentity, List.contains_cons, Bool.and_eq_true, Bool.not_eq_true',
    Bool.or_eq_false_iff] at h
  unfold decode
  split
  case h_14 heq =>
      obtain ⟨rfl, rfl⟩ := List.cons.inj heq
      rw [if_neg hoctal]
  all_goals simp_all

/-- An escape sequence is read as the character that it stands for. -/
theorem decode_of_writes {sequence : List Char} {c : Char} (h : Writes sequence c) :
    decode sequence = [c] := by
  cases h with
  | @letter l c h =>
      unfold letter? at h
      split at h
      all_goals first | contradiction | (obtain rfl := Option.some.inj h; rfl)
  | identity h => exact decode_identity h
  | null => rfl
  | byte hlength h => simp [decode, coded?_of_numeral? h]
  | word hlength h =>
      have hdigits := unbraced_digits (isDigitOf_of_numeral? h)
      simp [decode, hdigits.1, coded?_of_numeral? h]
  | braced h =>
      have hdigits := unbraced_digits (isDigitOf_of_numeral? h)
      rw [List.cons_append] at hdigits
      simp [decode, hdigits.2, coded?_of_numeral? h]

theorem decode_of_mem_continuations {sequence : List Char} (h : sequence ∈ continuations) :
    decode sequence = [] := by
  simp only [continuations, List.mem_cons, List.not_mem_nil, or_false] at h
  rcases h with rfl | rfl | rfl | rfl | rfl <;> rfl

/-- The code of half a surrogate pair is no character, so its escape stands for itself. -/
theorem decode_surrogate {digits : List Char} {n : Nat} (h : numeral? 16 digits = some n)
    (hlow : 0xD800 ≤ n) (hhigh : n < 0xE000) :
    decode ('\\' :: 'u' :: digits) = '\\' :: 'u' :: digits := by
  have hdigits := unbraced_digits (isDigitOf_of_numeral? h)
  have hcoded : coded? 16 digits = none := by
    rw [coded?, h]
    exact character?_surrogate hlow hhigh
  simp [decode, hdigits.1, hcoded]

end Escape

/-! ### Literals -/

/-- A part of a literal: characters that stand for themselves, the escape sequence of a character, a
line continuation, or a surrogate pair as two escape sequences. -/
inductive Piece where
  | raw (text : List Char)
  | escape (sequence : List Char) (c : Char) (h : Escape.Writes sequence c)
  | continuation (sequence : List Char) (h : sequence ∈ Escape.continuations)
  | pair (high low : List Char) (c : Char) (h : Escape.WritesPair high low c)

namespace Piece

/-- What a piece stands for. -/
def denoted : Piece → List Char
  | raw text => text
  | escape _ c _ => [c]
  | continuation _ _ => []
  | pair _ _ c _ => [c]

/-- What is read of a piece. -/
def kept : Piece → List Char
  | pair high low _ _ => ('\\' :: 'u' :: high) ++ '\\' :: 'u' :: low
  | piece => piece.denoted

def isPair : Piece → Bool
  | pair _ _ _ _ => true
  | _ => false

/-- The leaves of a piece in a syntax tree. -/
def leaves : Piece → List Node
  | raw text => [.leaf .stringFragment (String.ofList text)]
  | escape sequence _ _ => [.leaf .escapeSequence (String.ofList sequence)]
  | continuation sequence _ => [.leaf .escapeSequence (String.ofList sequence)]
  | pair high low _ _ =>
    [.leaf .escapeSequence (String.ofList ('\\' :: 'u' :: high)),
      .leaf .escapeSequence (String.ofList ('\\' :: 'u' :: low))]

/-- The literal that is made of pieces. -/
def literal (quote : String) (pieces : List Piece) : Node :=
  .branch .string ((.plain, .leaf .mark quote) ::
    (pieces.flatMap leaves).map (Prod.mk .plain) ++ [(.plain, .leaf .mark quote)])

theorem contents_fragment (text : List Char) :
    Node.contents (.leaf .stringFragment (String.ofList text)) = text :=
  String.toList_ofList

theorem contents_escape (sequence : List Char) :
    Node.contents (.leaf .escapeSequence (String.ofList sequence)) = Escape.decode sequence :=
  congrArg Escape.decode String.toList_ofList

theorem flatMap_contents_leaves (piece : Piece) :
    piece.leaves.flatMap Node.contents = piece.kept := by
  cases piece with
  | raw text => simp [leaves, contents_fragment, kept, denoted]
  | escape sequence c h =>
      simp [leaves, contents_escape, kept, denoted, Escape.decode_of_writes h]
  | continuation sequence h =>
      simp [leaves, contents_escape, kept, denoted, Escape.decode_of_mem_continuations h]
  | pair high low c h =>
      obtain ⟨-, -, m, n, hhigh, hlow, hm, hn, -⟩ := id h
      have hreadHigh := Escape.decode_surrogate hhigh (by omega) (by omega)
      have hreadLow := Escape.decode_surrogate hlow (by omega) (by omega)
      rw [leaves, List.flatMap_cons, List.flatMap_singleton, contents_escape, contents_escape,
        hreadHigh, hreadLow, kept]

theorem stringValue_literal (quote : String) (pieces : List Piece) :
    (literal quote pieces).stringValue = String.ofList (pieces.flatMap kept) := by
  have hmark : Node.contents (.leaf .mark quote) = [] := rfl
  simp only [Node.stringValue, literal, Node.children, List.flatMap_append, List.flatMap_cons,
    List.flatMap_nil, List.flatMap_map, List.flatMap_assoc, hmark, flatMap_contents_leaves,
    List.nil_append, List.append_nil]

/-- A pair is read as twelve characters, where it stands for one. -/
theorem length_flatMap_kept (pieces : List Piece) :
    (pieces.flatMap kept).length = (pieces.flatMap denoted).length + 11 * pieces.countP isPair := by
  induction pieces with
  | nil => rfl
  | cons piece pieces ih =>
      simp only [List.flatMap_cons, List.length_append, ih, List.countP_cons]
      cases piece with
      | pair high low c h =>
          simp only [kept, denoted, isPair, List.length_append, List.length_cons, List.length_nil,
            h.1, h.2.1, if_true]
          omega
      | _ => simp [kept, isPair, Nat.add_assoc]

/-- A literal is read piece by piece, and it is read as the string that it spells exactly if none of
its characters is written as a surrogate pair. Such a pair is read as its two escapes. The literal
is given by its fragments and escape sequences here, one leaf for each. Whether a source is divided
in this way is another question, and where `\u2028` or `\u2029` stands for itself it may not be:
directly behind an escaped question mark or a continuation by a carriage return it is taken into
the escape sequence. -/
theorem stringValue_eq_iff (quote : String) (pieces : List Piece) :
    (literal quote pieces).stringValue = String.ofList (pieces.flatMap kept) ∧
      ((literal quote pieces).stringValue = String.ofList (pieces.flatMap denoted) ↔
        ∀ piece ∈ pieces, piece.isPair = false) := by
  refine ⟨stringValue_literal quote pieces, ?_⟩
  rw [stringValue_literal, String.ofList_inj]
  constructor
  · intro heq
    have hlength := length_flatMap_kept pieces
    rw [heq] at hlength
    have hnone : pieces.countP isPair = 0 := by omega
    simpa using List.countP_eq_zero.mp hnone
  · intro hnone
    refine List.flatMap_congr fun piece hpiece => ?_
    cases piece with
    | pair high low c h => simpa [isPair] using hnone _ hpiece
    | _ => rfl

example : Token.escape ['\\', '?', '\u2028', 'a'] = some (['\\', '?', '\u2028'], ['a']) := by rfl

/-- A pair that spells one character is read as twelve, in a source as well. -/
theorem stringValue_surrogates :
    (∃ pieces, pieces.flatMap denoted = [Char.ofNat 0x1F600] ∧
        (literal "\"" pieces).stringValue = "\\uD83D\\uDE00") ∧
      declared "const o = \x7bs: \"\\uD83D\\uDE00\"\x7d" =
        .ok (some (.object [("s", .string "\\uD83D\\uDE00")])) := by
  have hpair : Escape.WritesPair "D83D".toList "DE00".toList (Char.ofNat 0x1F600) :=
    ⟨rfl, rfl, 0x3D, 0x200, by decide, by decide, by decide, by decide, by decide⟩
  refine ⟨⟨[pair _ _ _ hpair], rfl, ?_⟩, by decide +kernel⟩
  rw [stringValue_literal]
  rfl

end Piece

end SnippetBridge.TypeScript
