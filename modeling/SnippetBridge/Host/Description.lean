import SnippetBridge.Host.Heap
import SnippetBridge.Json.Printer
import SnippetBridge.Text.Inspected

/-!
One-line descriptions of host values. They show scalars in full, arrays by their length and objects
by their keys, so that they end on cyclic graphs too. A node that is being changed shows nothing of
its content.
-/

namespace SnippetBridge.Host

def Leaf.description : Leaf → String
  | .undefined => "Undefined"
  | .null => "Null"
  | .unknown => "Unknown"
  | .function => "Function"
  | .bool b => "Bool(" ++ String.ofList (Json.boolText b) ++ ")"
  | .number x => "Number(" ++ x.plain ++ ")"
  | .bigInt n => "BigInt(" ++ String.ofList (Json.integerText n) ++ ")"
  | .string s => "String(" ++ Text.inspect s ++ ")"
  | .symbol none => "Symbol(None)"
  | .symbol (some s) => "Symbol(Some(" ++ Text.inspect s ++ "))"
  | .reference path => "Ref(" ++ path ++ ")"

namespace Heap

def description (heap : Heap) : Item → String
  | .leaf leaf => leaf.description
  | .node id =>
    match heap.node? id with
    | some (.array items) => "Array(len=" ++ String.ofList (Nat.toDigits 10 items.length) ++ ")"
    | some (.object entries) =>
      "Object([" ++ ", ".intercalate ((Entries.keys entries).map Text.inspect) ++ "])"
    | none => Leaf.undefined.description

/-- The description of an item whose node, if it is one, is being changed. -/
def borrowedDescription (heap : Heap) : Item → String
  | .leaf leaf => leaf.description
  | .node id =>
    match heap.node? id with
    | some (.array _) => "Array(<borrowed>)"
    | some (.object _) => "Object(<borrowed>)"
    | none => Leaf.undefined.description

end Heap

end SnippetBridge.Host
