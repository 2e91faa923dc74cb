import SnippetBridge.Text.Unprintable

/-!
Strings as messages show them: between quotes, with everything that would not be seen as itself
written as an escape.
-/

namespace SnippetBridge.Text.Inspected

/-- The shown form of one character. -/
def escape (c : Char) : List Char :=
  match c with
  | '"' => ['\\', '"']
  | '\\' => ['\\', '\\']
  | '\n' => ['\\', 'n']
  | '\r' => ['\\', 'r']
  | '\t' => ['\\', 't']
  | '\x00' => ['\\', '0']
  | _ => if isUnprintable c then '\\' :: 'u' :: '{' :: Nat.toDigits 16 c.toNat ++ ['}'] else [c]

end Inspected

/-- A string between quotes, fit for a message. -/
def inspect (s : String) : String :=
  String.ofList ('"' :: s.toList.flatMap Inspected.escape ++ ['"'])

end SnippetBridge.Text
