/-!
Quoted strings of JSON. A quote, a backslash and the control characters below the space are
escaped, five of the controls by a letter; every other character stands for itself.
-/

namespace SnippetBridge.Text.Quoted

/-- The written form of one character between the quotes. -/
def escape (c : Char) : List Char :=
  match c with
  | '"' => ['\\', '"']
  | '\\' => ['\\', '\\']
  | '\x08' => ['\\', 'b']
  | '\t' => ['\\', 't']
  | '\n' => ['\\', 'n']
  | '\x0c' => ['\\', 'f']
  | '\r' => ['\\', 'r']
  | _ =>
    if c.toNat < 0x20 then
      ['\\', 'u', '0', '0', Nat.digitChar (c.toNat / 16), Nat.digitChar (c.toNat % 16)]
    else [c]

def encode (cs : List Char) : List Char := cs.flatMap escape

end Quoted

/-- A string between quotes. -/
def quote (s : String) : String := String.ofList ('"' :: Quoted.encode s.toList ++ ['"'])

end SnippetBridge.Text
