import SnippetBridge.Proofs.Json.Quoted
import SnippetBridge.Proofs.Text.Scan
import SnippetBridge.Proofs.TypeScript.Spelling
import SnippetBridge.Rhai.Literal

/-!
The strings of Rhai literals are string literals of TypeScript, too. Between the quotes they are
read part by part: a part is a run of characters that stand for themselves, or it is one escape
sequence, and the parts together stand for the string that was quoted. Keys in quotes are read
alike.
-/

namespace SnippetBridge.TypeScript

open Text (isDigitOf Scan)
open Text.Quoted (encode encode_cons)

/-! ### Escaped characters -/

/-- An escape sequence with four digits ends behind them, whatever follows. -/
theorem Token.escape_word {digits : List Char} (hlength : digits.length = 4)
    (h : ∀ c ∈ digits, isDigitOf 16 c) (more : List Char) :
    escape ('\\' :: 'u' :: digits ++ more) = some ('\\' :: 'u' :: digits, more) := by
  have htimes : Scan.times (isDigitOf 16) 4 (digits ++ more) = some (digits, more) :=
    hlength ▸ Scan.times_append h more
  have hunicode : unicodeEscape ('u' :: digits ++ more) = some ('u' :: digits, more) := by
    refine Scan.orElse_eq_some_iff.mpr (.inl ?_)
    simp only [Scan.bind_eq_some_iff, Scan.pure_eq_some_iff]
    exact ⟨'u', _, rfl, digits, more, htimes, rfl⟩
  simp only [escape, Scan.bind_eq_some_iff, Scan.pure_eq_some_iff, Scan.orElse_eq_some_iff]
  exact ⟨'\\', _, rfl, 'u' :: digits, more, .inr ⟨rfl, .inl hunicode⟩, rfl⟩

/-- Whether a character may stand for itself between double quotes. -/
def isBare (c : Char) : Bool := c != '"' && c != '\\' && c != '\n' && c != '\r'

/-- A quoted character stands for itself, or it is written as an escape sequence. -/
theorem escape_bare_or_sequence (c : Char) :
    (Text.Quoted.escape c = [c] ∧ isBare c) ∨
      ∃ tail, Text.Quoted.escape c = '\\' :: tail ∧ Escape.Writes ('\\' :: tail) c ∧
        ∀ more, Token.escape ('\\' :: tail ++ more) = some ('\\' :: tail, more) := by
  unfold Text.Quoted.escape
  split
  · exact .inr ⟨_, rfl, .identity rfl, fun _ => rfl⟩
  · exact .inr ⟨_, rfl, .identity rfl, fun _ => rfl⟩
  iterate 5 exact .inr ⟨_, rfl, .letter rfl, fun _ => rfl⟩
  · next hquote hbackslash _ _ hnewline _ hreturn =>
      split
      · next hcontrol =>
          have hnumeral := Json.numeral?_control c.toNat hcontrol
          have hdigits := isDigitOf_of_numeral? hnumeral
          exact .inr ⟨_, rfl, .word rfl hnumeral, Token.escape_word rfl hdigits⟩
      · refine .inl ⟨rfl, ?_⟩
        simpa [isBare] using ⟨⟨⟨hquote, hbackslash⟩, hnewline⟩, hreturn⟩

/-! ### Reading -/

/-- A run of bare characters ends where an escape or the closing quote begins. -/
theorem exists_run_encode (cs rest : List Char) :
    ∃ front back, cs = front ++ back ∧
      (encode cs ++ '"' :: rest).takeWhile isBare = front ∧
      (encode cs ++ '"' :: rest).dropWhile isBare = encode back ++ '"' :: rest := by
  induction cs with
  | nil => exact ⟨[], [], rfl, rfl, rfl⟩
  | cons c cs ih =>
      rcases escape_bare_or_sequence c with ⟨hescape, hbare⟩ | ⟨tail, hescape, -, -⟩
      · obtain ⟨front, back, hcs, htake, hdrop⟩ := ih
        refine ⟨c :: front, back, by rw [hcs, List.cons_append], ?_, ?_⟩
        · rw [encode_cons, hescape, List.singleton_append, List.cons_append,
            List.takeWhile_cons_of_pos hbare, htake]
        · rw [encode_cons, hescape, List.singleton_append, List.cons_append,
            List.dropWhile_cons_of_pos hbare, hdrop]
      · refine ⟨[], c :: cs, rfl, ?_, ?_⟩
        · rw [encode_cons, hescape]
          rfl
        · rw [encode_cons, hescape]
          rfl

variable (resolve : Symbol → Parser)

theorem Rule.parse_all_cons {rule : Rule Symbol} {rules : List (Rule Symbol)}
    {cs more rest : List Char} {first others : Node.Children}
    (hfirst : parse resolve rule cs = some (first, more))
    (hothers : parse resolve (.all rules) more = some (others, rest)) :
    parse resolve (.all (rule :: rules)) cs = some (first ++ others, rest) := by
  simp only [parse] at hothers
  simp only [parse, parseAll, hfirst, hothers, Option.bind_eq_bind, Option.bind_some,
    Option.pure_def]

theorem Rule.parse_all_nil (cs : List Char) : parse resolve (.all []) cs = some ([], cs) := rfl

theorem Rule.parse_any_head {rule : Rule Symbol} {rules : List (Rule Symbol)} {cs : List Char}
    {result : Node.Children × List Char} (h : parse resolve rule cs = some result) :
    parse resolve (.any (rule :: rules)) cs = some result := by
  simp only [parse, parseAny, h]

theorem Rule.parse_any_tail {rule : Rule Symbol} {rules : List (Rule Symbol)} {cs : List Char}
    (h : parse resolve rule cs = none) :
    parse resolve (.any (rule :: rules)) cs = parse resolve (.any rules) cs := by
  simp only [parse, parseAny, h]

theorem Rule.parse_node {kind : Kind} {rule : Rule Symbol} {cs rest : List Char}
    {children : Node.Children} (h : parse resolve rule cs = some (children, rest)) :
    parse resolve (.node kind rule) cs = some (Node.wrap kind children, rest) := by
  simp only [parse, h, Option.map_some]

/-- What stands between double quotes, read part by part. -/
def pieceRule : Grammar.GrammarRule :=
  .any [.adjacent .stringFragment (Token.fragment '"'), .adjacent .escapeSequence Token.escape]

theorem parse_piece_sequence {tail more : List Char}
    (h : Token.escape ('\\' :: tail ++ more) = some ('\\' :: tail, more)) :
    Rule.parse resolve pieceRule ('\\' :: tail ++ more) =
      some ([(.plain, .leaf .escapeSequence (String.ofList ('\\' :: tail)))], more) := by
  have hfragment : Token.fragment '"' ('\\' :: tail ++ more) = none := rfl
  simp only [pieceRule, Rule.parse, Rule.parseAny, Rule.leaf, hfragment, h, Option.bind_eq_bind,
    Option.bind_none, Option.bind_some, Option.pure_def]

theorem parse_piece_bare {c : Char} (h : isBare c) (more : List Char) :
    Rule.parse resolve pieceRule (c :: more) =
      some ([(.plain, .leaf .stringFragment (String.ofList (c :: more.takeWhile isBare)))],
        more.dropWhile isBare) := by
  have hfragment : Token.fragment '"' (c :: more) =
      some (c :: more.takeWhile isBare, more.dropWhile isBare) := by
    simp only [Token.fragment, Scan.run1, Scan.bind_eq_some_iff, Scan.pure_eq_some_iff]
    exact ⟨c, more, Scan.one_eq_some_iff.mpr ⟨rfl, h⟩, _, _, rfl, rfl⟩
  simp only [pieceRule, Rule.parse, Rule.parseAny, Rule.leaf, hfragment, Option.bind_eq_bind,
    Option.bind_some, Option.pure_def]

/-- One part of a quoted string is read; it stands for at least one character. -/
theorem exists_parse_piece (c : Char) (cs rest : List Char) :
    ∃ leaf front back, cs = front ++ back ∧ leaf.contents = c :: front ∧
      Rule.parse resolve pieceRule (encode (c :: cs) ++ '"' :: rest) =
        some ([(.plain, leaf)], encode back ++ '"' :: rest) := by
  rw [encode_cons, List.append_assoc]
  rcases escape_bare_or_sequence c with ⟨hescape, hbare⟩ | ⟨tail, hescape, hwrites, hread⟩
  · obtain ⟨front, back, hcs, htake, hdrop⟩ := exists_run_encode cs rest
    refine ⟨_, front, back, hcs, Piece.contents_fragment _, ?_⟩
    rw [hescape, List.singleton_append, parse_piece_bare resolve hbare, htake, hdrop]
  · have hcontents := Piece.contents_escape ('\\' :: tail)
    rw [Escape.decode_of_writes hwrites] at hcontents
    exact ⟨_, [], cs, rfl, hcontents, by rw [hescape, parse_piece_sequence resolve (hread _)]⟩

/-- The parts of a quoted string are read up to the closing quote, and they stand for the string. -/
theorem exists_repeated_encode (rest fuel : List Char) (cs : List Char)
    (h : cs.length ≤ fuel.length) :
    ∃ children : Node.Children,
      Rule.repeated (Rule.parse resolve pieceRule) fuel (encode cs ++ '"' :: rest) =
        some (children, '"' :: rest) ∧
      children.flatMap (fun child => child.2.contents) = cs := by
  induction fuel generalizing cs with
  | nil =>
      obtain rfl := List.length_eq_zero_iff.mp (Nat.le_zero.mp h)
      exact ⟨[], rfl, rfl⟩
  | cons d fuel ih =>
      cases cs with
      | nil => exact ⟨[], rfl, rfl⟩
      | cons c cs =>
          obtain ⟨leaf, front, back, rfl, hleaf, hparse⟩ := exists_parse_piece resolve c cs rest
          have hlength : back.length ≤ fuel.length := by
            rw [List.length_cons, List.length_cons, List.length_append] at h
            omega
          obtain ⟨children, hchildren, hcontents⟩ := ih back hlength
          refine ⟨(.plain, leaf) :: children, ?_, ?_⟩
          · rw [Rule.repeated, hparse]
            simp only [hchildren, Option.bind_eq_bind, Option.bind_some, Option.pure_def,
              List.singleton_append]
          · rw [List.flatMap_cons, hcontents, hleaf, List.cons_append]

theorem length_le_length_encode (cs : List Char) : cs.length ≤ (encode cs).length := by
  induction cs with
  | nil => exact Nat.le_refl 0
  | cons c cs ih =>
      have hescape : 1 ≤ (Text.Quoted.escape c).length := by
        rcases escape_bare_or_sequence c with ⟨hescape, -⟩ | ⟨tail, hescape, -⟩ <;> simp [hescape]
      rw [encode_cons, List.length_append, List.length_cons]
      omega

theorem toList_quote_append (s : String) (rest : List Char) :
    (Text.quote s).toList ++ rest = '"' :: (encode s.toList ++ '"' :: rest) := by
  simp [Text.quote]

/-- A quoted string is a string literal that denotes the string. -/
theorem exists_parse_quote (s : String) (rest : List Char) :
    ∃ children : Node.Children,
      Rule.parse resolve Grammar.string ((Text.quote s).toList ++ rest) =
        some ([(.plain, .branch .string children)], rest) ∧
      Node.stringValue (.branch .string children) = s := by
  have hfuel : s.toList.length ≤ (encode s.toList ++ '"' :: rest).length := by
    rw [List.length_append]
    exact Nat.le_add_right_of_le (length_le_length_encode s.toList)
  obtain ⟨children, hchildren, hcontents⟩ := exists_repeated_encode resolve rest _ s.toList hfuel
  have hpieces : Rule.parse resolve (.many pieceRule) (encode s.toList ++ '"' :: rest) =
      some (children, '"' :: rest) := hchildren
  have hopening : Rule.parse resolve (Grammar.mark "\"") ('"' :: (encode s.toList ++ '"' :: rest)) =
      some ([(.plain, .leaf .mark "\"")], encode s.toList ++ '"' :: rest) := rfl
  have hclosing : Rule.parse resolve (Grammar.adjacentMark "\"") ('"' :: rest) =
      some ([(.plain, .leaf .mark "\"")], rest) := rfl
  have hall := Rule.parse_all_cons resolve hopening (Rule.parse_all_cons resolve hpieces
    (Rule.parse_all_cons resolve hclosing (Rule.parse_all_nil resolve rest)))
  refine ⟨(.plain, .leaf .mark "\"") :: children ++ [(.plain, .leaf .mark "\"")], ?_, ?_⟩
  · rw [toList_quote_append]
    exact Rule.parse_any_head resolve (Rule.parse_node resolve hall)
  · have hmark : Node.contents (.leaf .mark "\"") = [] := rfl
    simp only [Node.stringValue, Node.children, List.flatMap_append, List.flatMap_cons,
      List.flatMap_nil, hmark, hcontents, List.nil_append, List.append_nil, String.ofList_toList]

/-- Neither a name nor a private name begins with a quote, so the key is read as a string. -/
theorem parse_propertyName_quote (s : String) (rest : List Char) :
    Rule.parse resolve Grammar.propertyName ((Text.quote s).toList ++ rest) =
      Rule.parse resolve Grammar.string ((Text.quote s).toList ++ rest) := by
  obtain ⟨children, hstring, -⟩ := exists_parse_quote resolve s rest
  rw [Grammar.propertyName, Rule.parse_any_tail resolve, Rule.parse_any_tail resolve,
    Rule.parse_any_head resolve hstring, hstring]
  all_goals
    rw [toList_quote_append]
    rfl

/-- What is rendered for a string is a string literal that denotes the string, and what is rendered
for a key in quotes is the same literal as the key of a property, whatever follows it. -/
theorem exists_literal_of_string (options : Rhai.Options) (depth : Nat) (s : String)
    (rest : List Char) :
    ∃ literal : Node, literal.stringValue = s ∧ literal.toExpr = .string s ∧
      literal.propertyKey = s ∧
      Rule.parse resolve Grammar.string
          (Rhai.treeText options depth (.leaf (.string s)) ++ rest) =
        some ([(.plain, literal)], rest) ∧
      Rule.parse resolve Grammar.propertyName
          (Rhai.keyText { options with quotes := true } s ++ rest) =
        some ([(.plain, literal)], rest) := by
  obtain ⟨children, hparse, hvalue⟩ := exists_parse_quote resolve s rest
  refine ⟨.branch .string children, hvalue, ?_, hvalue, hparse, ?_⟩
  · rw [Node.toExpr, hvalue]
  · exact (parse_propertyName_quote resolve s rest).trans hparse

end SnippetBridge.TypeScript
