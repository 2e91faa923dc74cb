/-!
Scanning text from left to right. A scan takes characters off the front of the text or fails, and
of two alternatives the second is tried where the first one started.
-/

namespace SnippetBridge.Text

abbrev Scan := StateT (List Char) Option

namespace Scan

/-- One character of a class. -/
def one (p : Char → Bool) : Scan Char := fun cs =>
  match cs with
  | [] => none
  | c :: rest => if p c then some (c, rest) else none

def char (c : Char) : Scan Char := one (· == c)

/-- As many characters of a class as there are. -/
def run (p : Char → Bool) : Scan (List Char) := fun cs => some (cs.takeWhile p, cs.dropWhile p)

/-- At least one character of a class. -/
def run1 (p : Char → Bool) : Scan (List Char) := return (← one p) :: (← run p)

/-- Exactly `n` characters of a class. -/
def times (p : Char → Bool) : Nat → Scan (List Char)
  | 0 => return []
  | n + 1 => return (← one p) :: (← times p n)

/-- The given characters, one after the other. -/
def literal : List Char → Scan Unit
  | [] => return
  | c :: rest => do
    let _ ← char c
    literal rest

def word (text : String) : Scan Unit := literal text.toList

/-- Whether the next character is of a class; takes nothing. -/
def ahead (p : Char → Bool) : Scan Bool := fun cs => some (cs.head?.any p, cs)

def atEnd : Scan Unit := fun cs => if cs.isEmpty then some ((), []) else none

def option {α : Type} (scan : Scan α) : Scan (Option α) := fun cs =>
  match scan cs with
  | some (a, rest) => some (some a, rest)
  | none => some (none, cs)

/-- Repeats a scan until it fails, but at most as often as `fuel` has characters. -/
def repeated {α : Type} (scan : Scan α) : List Char → Scan (List α)
  | [] => return []
  | _ :: fuel => do
    match ← option scan with
    | none => return []
    | some a => return a :: (← repeated scan fuel)

/-- Repeats a scan that takes at least one character until it fails. -/
def many {α : Type} (scan : Scan α) : Scan (List α) := fun cs => repeated scan cs cs

/-- The whole text. -/
def whole? {α : Type} (scan : Scan α) (text : String) : Option α :=
  match scan text.toList with
  | some (a, []) => some a
  | _ => none

end Scan

end SnippetBridge.Text
