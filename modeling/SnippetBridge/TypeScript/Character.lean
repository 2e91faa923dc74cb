/-!
Character classes of TypeScript sources.
-/

namespace SnippetBridge.TypeScript

/-- White space, the invisible joiners and the byte order mark among it. -/
def isBlank (c : Char) : Bool :=
  c == ' ' || ('\t' ≤ c && c ≤ '\r') || c == '\x85' || c == '\xa0' || c == '\u1680'
    || ('\u2000' ≤ c && c ≤ '\u200b') || c == '\u2028' || c == '\u2029' || c == '\u202f'
    || c == '\u205f' || c == '\u2060' || c == '\u3000' || c == '\ufeff'

/-- Where a line comment ends. -/
def isLineEnd (c : Char) : Bool := c == '\n' || c == '\r' || c == '\u2028' || c == '\u2029'

/-- The characters of operators, brackets and quotes. -/
def isPunctuation (c : Char) : Bool :=
  [':', ';', '\x60', '"', '\'', '@', '#', '.', ',', '|', '^', '&', '<', '=', '>', '+', '-', '*',
    '/', '\\', '%', '?', '!', '~', '(', ')', '[', ']', '{', '}'].contains c

/-- What may stand inside a name: all but controls, white space and punctuation. -/
def isNamePart (c : Char) : Bool := 0x20 < c.toNat && !isBlank c && !isPunctuation c

def isNameStart (c : Char) : Bool := isNamePart c && !c.isDigit

end SnippetBridge.TypeScript
