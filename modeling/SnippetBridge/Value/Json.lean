import SnippetBridge.Json.Printer
import SnippetBridge.Json.Reader
import SnippetBridge.Value.Basic

/-!
The JSON form of values. A reference is an object with the single key `$ref`; `unknown` and numbers
that are not finite become `null`. An integral number of magnitude below `2 ^ 53` is written as an
integer. Reading undoes this wherever it can: an object whose only entry is `$ref` with a
well-formed path is a reference, and all other objects stay objects.
-/

namespace SnippetBridge.Value

def referenceKey : String := "$ref"

theorem fitsWord_of_safe {x : Binary64} {n : Int} (h : x.safeInteger? = some n) :
    Json.FitsWord n := by
  cases x with
  | nan => simp [Binary64.safeInteger?] at h
  | infinite s => simp [Binary64.safeInteger?] at h
  | finite s units r =>
    simp only [Binary64.safeInteger?] at h
    split at h
    · rename_i hu
      have hq : units / Binary64.one < 9007199254740992 :=
        Nat.div_lt_of_lt_mul (by rw [Nat.mul_comm]; exact hu.2)
      generalize units / Binary64.one = q at h hq
      simp only [Option.some.injEq] at h
      subst h
      simp only [Json.FitsWord]
      split <;> omega
    · simp at h

/-- The JSON form of a number. -/
def numberJson (x : Binary64) : Json :=
  match h : x.safeInteger? with
  | some n => .number (.integer n (fitsWord_of_safe h))
  | none => if h : x.isFinite = true then .number (.decimal x h) else .null

mutual

def toJson : Value → Json
  | .null => .null
  | .bool b => .bool b
  | .number x => numberJson x
  | .string s => .string s
  | .array items => .array (itemsToJson items)
  | .object entries => .object (entriesToJson entries)
  | .reference path => .object [(referenceKey, .string path)]
  | .unknown => .null

def itemsToJson : List Value → List Json
  | [] => []
  | item :: rest => toJson item :: itemsToJson rest

def entriesToJson : List (String × Value) → List (String × Json)
  | [] => []
  | (key, value) :: rest => (key, toJson value) :: entriesToJson rest

end

/-- An object of the given entries, or the reference that they spell. -/
def ofFields (entries : List (String × Value)) : Value :=
  match Entries.ofList entries with
  | [(key, .string path)] =>
    if key = referenceKey ∧ DottedPath.isWellFormed path then .reference path
    else .object [(key, .string path)]
  | entries => .object entries

mutual

def ofJson : Json → Value
  | .null => .null
  | .bool b => .bool b
  | .number n => .number n.toBinary64
  | .string s => .string s
  | .array items => .array (itemsOfJson items)
  | .object fields => ofFields (fieldsOfJson fields)

def itemsOfJson : List Json → List Value
  | [] => []
  | item :: rest => ofJson item :: itemsOfJson rest

def fieldsOfJson : List (String × Json) → List (String × Value)
  | [] => []
  | (key, value) :: rest => (key, ofJson value) :: fieldsOfJson rest

end

/-- Reads a value from its JSON text. -/
def ofText (text : String) : Except Json.Error Value := (Json.ofText text).map ofJson

end SnippetBridge.Value
