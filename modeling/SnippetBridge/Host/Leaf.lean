import SnippetBridge.Value.Basic

/-!
Values that a host program hands over. A *tree* is such a value without sharing; its leaves are the
host's scalars, some of which no snippet can declare.
-/

namespace SnippetBridge.Host

inductive Leaf where
  | undefined
  | null
  | unknown
  | function
  | bool (value : Bool)
  | number (value : Binary64)
  | bigInt (value : Int)
  | string (value : String)
  | symbol (description : Option String)
  | reference (path : String)
  deriving DecidableEq

inductive Tree where
  | leaf (leaf : Leaf)
  | array (items : List Tree)
  | object (entries : List (String × Tree))

namespace Tree

mutual

/-- A declared value as a host value. -/
def ofValue : Value → Tree
  | .null => .leaf .null
  | .bool b => .leaf (.bool b)
  | .number x => .leaf (.number x)
  | .string s => .leaf (.string s)
  | .array items => .array (ofItems items)
  | .object entries => .object (ofEntries entries)
  | .reference path => .leaf (.reference path)
  | .unknown => .leaf .unknown

def ofItems : List Value → List Tree
  | [] => []
  | item :: rest => ofValue item :: ofItems rest

def ofEntries : List (String × Value) → List (String × Tree)
  | [] => []
  | (key, value) :: rest => (key, ofValue value) :: ofEntries rest

end

end Tree

end SnippetBridge.Host
