import SnippetBridge.Proofs.Value.Equality
import SnippetBridge.Value.Json

/-!
Equality of documents as data: the order of an object's fields does not count, and an integer is
never equal to a double. The JSON forms of equal values are equal; the two zeros even have the same
form, since both are written as an integer.
-/

namespace SnippetBridge

namespace Json

def Number.same : Number → Number → Bool
  | .integer a _, .integer b _ => a == b
  | .decimal x _, .decimal y _ => x.same y
  | _, _ => false

mutual

def same : Json → Json → Bool
  | .null, .null => true
  | .bool a, .bool b => a == b
  | .number a, .number b => a.same b
  | .string a, .string b => a == b
  | .array xs, .array ys => sameItems xs ys
  | .object xs, .object ys => xs.length == ys.length && sameFields xs ys
  | _, _ => false

def sameItems : List Json → List Json → Bool
  | [], [] => true
  | x :: xs, y :: ys => same x y && sameItems xs ys
  | _, _ => false

/-- Every field of the first list has an equal one under the same key in the second. -/
def sameFields : List (String × Json) → List (String × Json) → Bool
  | [], _ => true
  | (key, x) :: xs, ys =>
    (match Entries.find? key ys with
      | some y => same x y
      | none => false) && sameFields xs ys

end

theorem Number.same_self (n : Number) : n.same n = true := by
  cases n with
  | integer value fits => exact beq_iff_eq.mpr rfl
  | decimal x hfinite =>
      obtain ⟨negative, units, hrep, rfl⟩ := Binary64.exists_of_isFinite hfinite
      simp [Number.same, Binary64.same]

theorem same_number_self (n : Number) : (number n).same (.number n) = true := n.same_self

theorem same_array {xs ys : List Json} (h : List.Forall₂ (fun x y => x.same y = true) xs ys) :
    (array xs).same (.array ys) = true := by
  show sameItems xs ys = true
  induction h with
  | nil => rfl
  | cons hfirst _ ih => exact Bool.and_eq_true_iff.mpr ⟨hfirst, ih⟩

/-- Objects are equal whose fields are equal one by one in some order. -/
theorem same_object {xs zs ys : List (String × Json)}
    (h : List.Forall₂ (fun x z => x.1 = z.1 ∧ x.2.same z.2 = true) xs zs) (horder : zs.Perm ys)
    (hkeys : (Entries.keys ys).Nodup) : (object xs).same (.object ys) = true := by
  have hlength : xs.length = ys.length := h.length_eq.trans horder.length_eq
  have hmem : ∀ z ∈ zs, z ∈ ys := fun z hz => horder.subset hz
  have hfields : sameFields xs ys = true := by
    clear hlength horder
    induction h with
    | nil => rfl
    | @cons x z xs zs hfirst _ ih =>
        obtain ⟨key, v⟩ := x
        obtain ⟨rfl, hsame⟩ := hfirst
        obtain ⟨hz, hzs⟩ := List.forall_mem_cons.mp hmem
        rw [sameFields, Entries.find?_of_mem hkeys hz, ih hzs, Bool.and_true]
        exact hsame
  simp [same, hlength, hfields]

end Json

namespace Value

theorem safeInteger?_zero (negative : Bool) :
    (Binary64.zero negative).safeInteger? = some 0 := by
  have hpos : 0 < 9007199254740992 * Binary64.one := Nat.mul_pos (by decide) Binary64.one_pos
  cases negative <;> simp [Binary64.zero, Binary64.safeInteger?, hpos]

theorem numberJson_zero (negative : Bool) :
    numberJson (.zero negative) = .number (.integer 0 (by decide)) := by
  rw [numberJson]
  split
  · rename_i n hn
    rw [safeInteger?_zero, Option.some.injEq] at hn
    subst hn
    rfl
  · rename_i hnone
    simp [safeInteger?_zero] at hnone

theorem same_numberJson_self (x : Binary64) : (numberJson x).same (numberJson x) = true := by
  rw [numberJson]
  split
  · exact Json.same_number_self _
  · split
    · exact Json.same_number_self _
    · rfl

theorem itemsToJson_eq_map (items : List Value) : itemsToJson items = items.map toJson := by
  induction items with
  | nil => rfl
  | cons item rest ih => rw [itemsToJson, ih, List.map_cons]

theorem entriesToJson_eq_map (entries : List (String × Value)) :
    entriesToJson entries = entries.map fun entry => (entry.1, entry.2.toJson) := by
  induction entries with
  | nil => rfl
  | cons entry rest ih => rw [entriesToJson, ih, List.map_cons]

theorem keys_entriesToJson (entries : List (String × Value)) :
    Entries.keys (entriesToJson entries) = Entries.keys entries := by
  rw [entriesToJson_eq_map, Entries.keys, List.map_map]
  rfl

/-- Equal values have equal JSON forms. -/
theorem toJson_same {v w : Value} (hv : v.WellFormed) (h : v.same w = true) :
    v.toJson.same w.toJson = true := by
  refine same_induction ?scalar ?zero ?array ?object hv h
  case scalar =>
    intro v hitems hentries
    cases v with
    | number x => exact same_numberJson_self x
    | array items => cases hitems
    | object entries => cases hentries
    | reference path =>
        have hpath : (Json.string path).same (.string path) = true := by simp [Json.same]
        exact Json.same_object (.cons ⟨rfl, hpath⟩ .nil) (.refl _) (by simp)
    | _ => simp [toJson, Json.same]
  case zero =>
    intro s t
    rw [toJson, toJson, numberJson_zero, numberJson_zero]
    exact Json.same_number_self _
  case array =>
    intro xs ys h
    rw [toJson, toJson, itemsToJson_eq_map, itemsToJson_eq_map]
    exact Json.same_array (List.forall₂_map_left_iff.mpr (List.forall₂_map_right_iff.mpr h))
  case object =>
    intro xs zs ys h horder hkeys
    rw [← keys_entriesToJson, entriesToJson_eq_map] at hkeys
    rw [toJson, toJson, entriesToJson_eq_map, entriesToJson_eq_map]
    exact Json.same_object
      (List.forall₂_map_left_iff.mpr (List.forall₂_map_right_iff.mpr h)) (horder.map _) hkeys

end Value

end SnippetBridge
