import SnippetBridge.Value.Basic

/-!
Equality of values as data: the order of an object's entries does not count, the two zeros are the
same number, and `nan` differs from everything.
-/

namespace SnippetBridge.Value

mutual

def same : Value → Value → Bool
  | .null, .null => true
  | .bool a, .bool b => a == b
  | .number a, .number b => a.same b
  | .string a, .string b => a == b
  | .array xs, .array ys => sameItems xs ys
  | .object xs, .object ys => xs.length == ys.length && sameEntries xs ys
  | .reference a, .reference b => a == b
  | .unknown, .unknown => true
  | _, _ => false

def sameItems : List Value → List Value → Bool
  | [], [] => true
  | x :: xs, y :: ys => same x y && sameItems xs ys
  | _, _ => false

/-- Every entry of the first list has an equal one under the same key in the second. -/
def sameEntries : List (String × Value) → List (String × Value) → Bool
  | [], _ => true
  | (key, x) :: xs, ys =>
    (match Entries.find? key ys with
      | some y => same x y
      | none => false) && sameEntries xs ys

end

end SnippetBridge.Value
