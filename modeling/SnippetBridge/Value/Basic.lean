import SnippetBridge.Binary64.Text
import SnippetBridge.DottedPath
import SnippetBridge.Entries
import SnippetBridge.Text.Inspected

/-!
Values that a snippet declares. Besides the shapes of JSON there are references, which name
something by a dotted path, and `unknown`, which stands for a shape that was not understood.
Objects are maps in insertion order: `WellFormed` says that no object repeats a key.
-/

namespace SnippetBridge

inductive Value where
  | null
  | bool (value : Bool)
  | number (value : Binary64)
  | string (value : String)
  | array (items : List Value)
  | object (entries : List (String × Value))
  | reference (path : String)
  | unknown

namespace Value

instance : Inhabited Value := ⟨.null⟩

/-- An object of the given entries; a repeated key keeps its first place and its last value. -/
def ofEntries (entries : List (String × Value)) : Value := .object (Entries.ofList entries)

inductive ReferenceError where
  | invalidPath (path : String)
  deriving DecidableEq

def ReferenceError.message : ReferenceError → String
  | .invalidPath path => "invalid reference path: " ++ Text.inspect path

/-- A reference, provided that its path is well formed. -/
def reference? (path : String) : Except ReferenceError Value :=
  if DottedPath.isWellFormed path then .ok (.reference path) else .error (.invalidPath path)

mutual

def WellFormed : Value → Prop
  | .array items => AllWellFormed items
  | .object entries => (Entries.keys entries).Nodup ∧ EntriesWellFormed entries
  | _ => True

def AllWellFormed : List Value → Prop
  | [] => True
  | item :: rest => WellFormed item ∧ AllWellFormed rest

def EntriesWellFormed : List (String × Value) → Prop
  | [] => True
  | (_, value) :: rest => WellFormed value ∧ EntriesWellFormed rest

end

/-! What kind of value it is, and what it holds. -/

def isNull : Value → Bool
  | .null => true
  | _ => false

def bool? : Value → Option Bool
  | .bool b => some b
  | _ => none

def number? : Value → Option Binary64
  | .number n => some n
  | _ => none

def string? : Value → Option String
  | .string s => some s
  | _ => none

def items? : Value → Option (List Value)
  | .array items => some items
  | _ => none

def entries? : Value → Option (List (String × Value))
  | .object entries => some entries
  | _ => none

def path? : Value → Option String
  | .reference path => some path
  | _ => none

/-- The entry of an object under a key. -/
def get? (key : String) (value : Value) : Option Value :=
  value.entries?.bind (Entries.find? key)

/-- Puts the entries of one object into another: keys that are there get the new value where they
stand, new ones come after them. In every other case the second value takes the place of the
first. -/
def merge : Value → Value → Value
  | .object base, .object extra => .object (Entries.insertAll base extra)
  | _, other => other

end Value

end SnippetBridge
