import SnippetBridge.Text.Digit

/-!
Escape sequences of string literals. A sequence stands for one character, or for none if it is a
line break behind a backslash.
-/

namespace SnippetBridge.TypeScript.Escape

/-- The character with a code point, if there is one. -/
def character? (code : Nat) : Option Char :=
  if code.isValidChar then some (Char.ofNat code) else none

/-- The character whose code is written in digits of a base. -/
def coded? (base : Nat) (digits : List Char) : Option Char :=
  (Text.numeral? base digits).bind character?

/-- Digits without braces around them. -/
def unbraced (digits : List Char) : List Char :=
  ((digits.dropWhile (· == '{')).reverse.dropWhile (· == '}')).reverse

/-- What an escape sequence stands for. One whose code no character has stands for itself. -/
def decode (sequence : List Char) : List Char :=
  let coded (found : Option Char) : List Char := (found.map ([·])).getD sequence
  match sequence.drop 1 with
  | [] => []
  | 'n' :: _ => ['\n']
  | 't' :: _ => ['\t']
  | 'r' :: _ => ['\r']
  | 'b' :: _ => ['\x08']
  | 'f' :: _ => ['\x0c']
  | 'v' :: _ => ['\x0b']
  | '\n' :: _ | '\r' :: _ | '\u2028' :: _ | '\u2029' :: _ => []
  | 'x' :: digits => coded (coded? 16 digits)
  | 'u' :: digits => coded (coded? 16 (unbraced digits))
  | c :: rest => if '0' ≤ c ∧ c ≤ '7' then coded (coded? 8 (c :: rest)) else [c]

end SnippetBridge.TypeScript.Escape
