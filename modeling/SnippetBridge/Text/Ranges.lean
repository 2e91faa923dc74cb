/-!
Sets of code points, written as ascending lists of closed ranges.
-/

namespace SnippetBridge.Text

def inRanges : List (Nat × Nat) → Nat → Bool
  | [], _ => false
  | (low, high) :: rest, n => if n < low then false else n ≤ high || inRanges rest n

end SnippetBridge.Text
