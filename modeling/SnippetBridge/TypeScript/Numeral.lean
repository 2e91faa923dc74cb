import SnippetBridge.Binary64.Text
import SnippetBridge.Text.Digit

/-!
Numeric literals: the number that a literal denotes, and the key that a number is as the name of a
property.
-/

namespace SnippetBridge.TypeScript.Numeral

/-- An integer of at most 64 bits. -/
def word? (base : Nat) (digits : List Char) : Option Nat :=
  (Text.numeral? base digits).filter (· ≤ 18446744073709551615)

/-- The base that the second character of a literal stands for after a zero. -/
def base? : Char → Option Nat
  | 'x' | 'X' => some 16
  | 'o' | 'O' => some 8
  | 'b' | 'B' => some 2
  | _ => none

/-- The number that a literal without separators denotes. Only literals with a base are limited in
size. -/
def unseparated? : List Char → Option Binary64
  | '0' :: letter :: digits =>
    match base? letter with
    | some base => (word? base digits).map Binary64.ofNat
    | none => Binary64.ofUnsigned? false ('0' :: letter :: digits)
  | text => Binary64.ofUnsigned? false text

/-- The number that a literal denotes; big integers are no numbers. -/
def value? (literal : String) : Option Binary64 :=
  let text := literal.toList.filter (· != '_')
  if text.getLast? = some 'n' then none else unseparated? text

/-- The key that a number is. An integer below `10 ^ 21` is written with all its digits, any other
number in plain form. -/
def key (x : Binary64) : String :=
  match x with
  | .finite negative units _ =>
    if units % Binary64.one = 0 ∧ units < 1000000000000000000000 * Binary64.one then
      let digits := Nat.toDigits 10 (units / Binary64.one)
      String.ofList (if negative then '-' :: digits else digits)
    else x.plain
  | _ => x.plain

end SnippetBridge.TypeScript.Numeral
