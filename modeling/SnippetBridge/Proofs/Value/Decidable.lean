import SnippetBridge.Value.Basic

/-!
Deciding whether two values are the same, entry order included. What a snippet declares can then be
computed and compared.
-/

namespace SnippetBridge.Value

mutual

def identical : Value → Value → Bool
  | .null, .null => true
  | .bool a, .bool b => a == b
  | .number a, .number b => decide (a = b)
  | .string a, .string b => a == b
  | .array xs, .array ys => identicalItems xs ys
  | .object xs, .object ys => identicalEntries xs ys
  | .reference a, .reference b => a == b
  | .unknown, .unknown => true
  | _, _ => false

def identicalItems : List Value → List Value → Bool
  | [], [] => true
  | x :: xs, y :: ys => identical x y && identicalItems xs ys
  | _, _ => false

def identicalEntries : List (String × Value) → List (String × Value) → Bool
  | [], [] => true
  | (key, x) :: xs, (key', y) :: ys => key == key' && identical x y && identicalEntries xs ys
  | _, _ => false

end

mutual

theorem identical_iff (v w : Value) : v.identical w = true ↔ v = w := by
  cases v with
  | array xs =>
      cases w with
      | array ys => rw [identical, identicalItems_iff xs ys, Value.array.injEq]
      | _ => simp [identical]
  | object xs =>
      cases w with
      | object ys => rw [identical, identicalEntries_iff xs ys, Value.object.injEq]
      | _ => simp [identical]
  | _ => cases w <;> simp [identical]

theorem identicalItems_iff (xs ys : List Value) : identicalItems xs ys = true ↔ xs = ys := by
  cases xs with
  | nil => cases ys <;> simp [identicalItems]
  | cons x xs =>
      cases ys with
      | nil => simp [identicalItems]
      | cons y ys =>
          rw [identicalItems, Bool.and_eq_true, identical_iff x y, identicalItems_iff xs ys,
            List.cons.injEq]

theorem identicalEntries_iff (xs ys : List (String × Value)) :
    identicalEntries xs ys = true ↔ xs = ys := by
  cases xs with
  | nil => cases ys <;> simp [identicalEntries]
  | cons entry xs =>
      obtain ⟨key, x⟩ := entry
      cases ys with
      | nil => simp [identicalEntries]
      | cons entry' ys =>
          obtain ⟨key', y⟩ := entry'
          rw [identicalEntries, Bool.and_eq_true, Bool.and_eq_true, beq_iff_eq, identical_iff x y,
            identicalEntries_iff xs ys, List.cons.injEq, Prod.mk.injEq]

end

instance : DecidableEq Value := fun v w => decidable_of_iff _ (identical_iff v w)

end SnippetBridge.Value
