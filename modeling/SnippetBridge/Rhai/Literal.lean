import SnippetBridge.Host.Leaf
import SnippetBridge.Json.Printer
import SnippetBridge.Rhai.Options
import SnippetBridge.Text.Block
import SnippetBridge.Text.Quoted

/-!
Rhai literals. Strings are quoted as in JSON, references are written bare for the script to resolve,
and everything that has no literal of its own is written as the options say for what is absent.
Arrays and object maps are blocks; the entries of a map come in ascending order of their keys.
-/

namespace SnippetBridge.Rhai

def numberText (options : Options) (x : Binary64) : List Char :=
  if ¬x.isFinite then options.absent.toList
  else if x.same (.zero false) then ['0']
  else x.plain.toList

def leafText (options : Options) : Host.Leaf → List Char
  | .undefined => options.absent.toList
  | .null => options.absent.toList
  | .unknown => options.absent.toList
  | .bool b => Json.boolText b
  | .number x => numberText options x
  | .bigInt n => Json.integerText n
  | .string s => (Text.quote s).toList
  | .symbol description => (Text.quote ("Symbol(" ++ description.getD "" ++ ")")).toList
  | .function => (Text.quote "[Function]").toList
  | .reference path => path.toList

def keyText (options : Options) (key : String) : List Char :=
  if options.quotes then (Text.quote key).toList else key.toList

/-- An array of items whose texts are given. -/
def arrayText (depth : Nat) (items : List (List Char)) : List Char :=
  Text.block ['['] [']'] items depth

/-- An object map of entries whose texts are given. -/
def objectText (options : Options) (depth : Nat) (entries : List (String × List Char)) :
    List Char :=
  let line : String × List Char → List Char := fun (key, text) =>
    keyText options key ++ ':' :: ' ' :: text
  Text.block ['#', '{'] ['}'] ((Entries.sorted entries).map line) depth

mutual

/-- The literal of a tree whose brackets stand at level `depth`. -/
def treeText (options : Options) (depth : Nat) : Host.Tree → List Char
  | .leaf leaf => leafText options leaf
  | .array items => arrayText depth (itemTexts options (depth + 1) items)
  | .object entries => objectText options depth (entryTexts options (depth + 1) entries)

def itemTexts (options : Options) (depth : Nat) : List Host.Tree → List (List Char)
  | [] => []
  | item :: rest => treeText options depth item :: itemTexts options depth rest

def entryTexts (options : Options) (depth : Nat) :
    List (String × Host.Tree) → List (String × List Char)
  | [] => []
  | (key, tree) :: rest => (key, treeText options depth tree) :: entryTexts options depth rest

end

/-- The literal of a host value without sharing, and the suffix. -/
def renderTree (options : Options) (tree : Host.Tree) : String :=
  String.ofList (treeText options 0 tree) ++ options.suffix

/-- The literal of a declared value, and the suffix. -/
def render (options : Options) (value : Value) : String := renderTree options (.ofValue value)

end SnippetBridge.Rhai
