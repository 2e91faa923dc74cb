import Mathlib.Data.List.TakeWhile
import SnippetBridge.Proofs.TypeScript.Quoted

/-!
Quoted strings read by the rules of Rhai. The escapes of JSON are escapes of Rhai as well, with two
exceptions: Rhai knows no letter for a backspace or a form feed. So a quoted string without these
characters is a string literal of Rhai that denotes the string, and one with them is malformed.
-/

namespace SnippetBridge.Rhai.StringLiteral

open Text (Scan isDigitOf numeral?)
open Text.Scan (char many one repeated times)
open Text.Quoted (encode encode_cons)

/-! ### String literals of Rhai -/

/-- A character that is given by so many hexadecimal digits of its code. -/
def coded (width : Nat) : Scan Char := do
  let digits ← times (isDigitOf 16) width
  match TypeScript.Escape.coded? 16 digits with
  | some c => return c
  | none => failure

/-- An escape. Behind the backslash there is a letter or a mark that stands for a character, or one
that says how many digits follow; anything else is malformed. -/
def escape : Scan Char := do
  let _ ← char '\\'
  match ← one fun _ => true with
  | 't' => return '\t'
  | 'n' => return '\n'
  | 'r' => return '\r'
  | '\\' => return '\\'
  | '"' => return '"'
  | '\'' => return '\''
  | 'x' => coded 2
  | 'u' => coded 4
  | 'U' => coded 8
  | _ => failure

/-- A character that stands for itself. A string ends on the line that it begins on. -/
def bare : Scan Char := one fun c => c != '"' && c != '\\' && c != '\n'

/-- A string literal, read as what it denotes. -/
def literal : Scan (List Char) := do
  let _ ← char '"'
  let cs ← many (bare <|> escape)
  let _ ← char '"'
  return cs

/-! ### Reading quoted strings -/

/-- The characters that need no escape, or whose escape Rhai knows. -/
def isKnown (c : Char) : Bool := c != '\x08' && c != '\x0c'

theorem isKnown_eq_false_iff {c : Char} : isKnown c = false ↔ c = '\x08' ∨ c = '\x0c' := by
  simp only [isKnown, Bool.and_eq_false_iff, bne_eq_false_iff_eq]

theorem coded_word {digits : List Char} (hlength : digits.length = 4) {c : Char}
    (h : numeral? 16 digits = some c.toNat) (more : List Char) :
    coded 4 (digits ++ more) = some (c, more) := by
  have htimes : times (isDigitOf 16) 4 (digits ++ more) = some (digits, more) :=
    hlength ▸ Scan.times_append (TypeScript.isDigitOf_of_numeral? h) more
  have hcoded := TypeScript.Escape.coded?_of_numeral? h
  simp only [coded, Scan.bind_eq_some_iff]
  exact ⟨digits, more, htimes, by rw [hcoded]; rfl⟩

/-- A quoted character is read as the character, or its escape is malformed. -/
theorem read_escape (c : Char) (more : List Char) :
    (bare <|> escape) (Text.Quoted.escape c ++ more) =
      if isKnown c then some (c, more) else none := by
  unfold Text.Quoted.escape
  split
  case h_8 hquote hbackslash hbackspace _ hnewline hfeed _ =>
    have hknown : isKnown c = true := by simpa [isKnown] using ⟨hbackspace, hfeed⟩
    rw [if_pos hknown]
    split
    next hcontrol =>
      have hread := coded_word rfl (Json.numeral?_control c.toNat hcontrol) more
      refine Scan.orElse_eq_some_iff.mpr (.inr ⟨rfl, ?_⟩)
      simp only [escape, Scan.bind_eq_some_iff]
      exact ⟨'\\', _, rfl, 'u', _, rfl, hread⟩
    next =>
      refine Scan.orElse_eq_some_iff.mpr (.inl ?_)
      exact Scan.one_eq_some_iff.mpr ⟨rfl, by simpa using ⟨⟨hquote, hbackslash⟩, hnewline⟩⟩
  -- The escapes of a single letter.
  all_goals rfl

/-- A quoted string is read up to the first character whose escape Rhai does not know. -/
theorem read_encode (cs rest fuel : List Char) (h : cs.length ≤ fuel.length) :
    repeated (bare <|> escape) fuel (encode cs ++ '"' :: rest) =
      some (cs.takeWhile isKnown, encode (cs.dropWhile isKnown) ++ '"' :: rest) := by
  induction fuel generalizing cs with
  | nil =>
      obtain rfl := List.length_eq_zero_iff.mp (Nat.le_zero.mp h)
      rfl
  | cons _ fuel ih =>
      cases cs with
      | nil => rfl
      | cons c cs =>
          rw [encode_cons, List.append_assoc, repeated]
          by_cases hc : isKnown c
          · have hpiece := read_escape c (encode cs ++ '"' :: rest)
            rw [if_pos hc] at hpiece
            have hmore := ih cs (Nat.le_of_succ_le_succ h)
            rw [List.takeWhile_cons_of_pos hc, List.dropWhile_cons_of_pos hc]
            simp only [Scan.bind_eq_some_iff]
            refine ⟨some c, _, by rw [Scan.option, hpiece], ?_⟩
            exact Scan.bind_eq_some_iff.mpr ⟨_, _, hmore, rfl⟩
          · have hpiece := read_escape c (encode cs ++ '"' :: rest)
            rw [if_neg hc] at hpiece
            rw [List.takeWhile_cons_of_neg hc, List.dropWhile_cons_of_neg hc, encode_cons,
              List.append_assoc]
            simp only [Scan.bind_eq_some_iff]
            exact ⟨none, _, by rw [Scan.option, hpiece], rfl⟩

/-- What has been read up to a quote is the string. -/
theorem literal_cons {cs front rest : List Char}
    (h : many (bare <|> escape) cs = some (front, rest)) :
    literal ('"' :: cs) = (char '"' rest).map fun (_, more) => (front, more) := by
  have hopening : char '"' ('"' :: cs) = some ('"', cs) := rfl
  simp only [literal, bind, StateT.bind, hopening, h, Option.bind_some]
  cases char '"' rest <;> rfl

/-- Whatever follows it, a quoted string is read by the rules of Rhai as the string itself, unless
there is a backspace or a form feed in it: with one of these it is malformed. -/
theorem read_quote (s : String) (rest : List Char) :
    literal ((Text.quote s).toList ++ rest) =
      if '\x08' ∈ s.toList ∨ '\x0c' ∈ s.toList then none else some (s.toList, rest) := by
  have hfuel : s.toList.length ≤ (encode s.toList ++ '"' :: rest).length := by
    rw [List.length_append]
    exact Nat.le_add_right_of_le (TypeScript.length_le_length_encode s.toList)
  rw [TypeScript.toList_quote_append, literal_cons (read_encode s.toList rest _ hfuel)]
  cases hrest : s.toList.dropWhile isKnown with
  | nil =>
      have hknown : ∀ c ∈ s.toList, isKnown c := List.dropWhile_eq_nil_iff.mp hrest
      have hnone : ¬('\x08' ∈ s.toList ∨ '\x0c' ∈ s.toList) := by
        rintro (hmem | hmem)
        · exact absurd (hknown _ hmem) (by decide)
        · exact absurd (hknown _ hmem) (by decide)
      rw [if_neg hnone, List.takeWhile_eq_self_iff.mpr hknown]
      rfl
  | cons c back =>
      have hunknown : isKnown c = false := by
        simpa [hrest] using List.head?_dropWhile_not isKnown s.toList
      have hmem : c ∈ s.toList := (List.dropWhile_sublist isKnown).mem (hrest ▸ List.mem_cons_self)
      -- The backslash in front of the letter is not the closing quote.
      rcases isKnown_eq_false_iff.mp hunknown with rfl | rfl
      · rw [if_pos (.inl hmem)]
        rfl
      · rw [if_pos (.inr hmem)]
        rfl

/-- A string of one backspace has no literal that Rhai could read. -/
theorem read_quote_backspace : literal (Text.quote "\x08").toList ≠ some (['\x08'], []) := by
  decide +kernel

end SnippetBridge.Rhai.StringLiteral
