import SnippetBridge.Binary64.Text
import SnippetBridge.Entries

/-!
TOML data. A table remembers how it came to be, because that decides what may still be added to it:
a table may be declared once, only dotted keys may extend what dotted keys began, and an inline
table is closed.
-/

namespace SnippetBridge

namespace Toml

inductive Origin where
  /-- Named only as a parent in a header. -/
  | implied
  /-- Begun by a dotted key. -/
  | dotted
  /-- Declared by a header of its own. -/
  | declared
  | inline
  deriving DecidableEq

end Toml

inductive Toml where
  | string (text : String)
  | boolean (value : Bool)
  | integer (value : Int)
  | float (value : Binary64)
  /-- A date, a time or both, as written. -/
  | moment (text : String)
  | array (items : List Toml)
  | table (origin : Toml.Origin) (entries : List (String × Toml))
  /-- An array of tables, each declared by a header. -/
  | tables (items : List (List (String × Toml)))

namespace Toml

abbrev Table := List (String × Toml)

/-- Puts a value under a dotted key. The key must be new, and the tables on the way must be new or
come from dotted keys; one that a header implied may be passed but not added to. -/
def put? : List String → Toml → Table → Option Table
  | [], _, _ => none
  | [key], value, entries =>
    match Entries.find? key entries with
    | some _ => none
    | none => some (entries ++ [(key, value)])
  | key :: rest, value, entries =>
    match Entries.find? key entries with
    | none => do
      let inner ← put? rest value []
      return entries ++ [(key, .table .dotted inner)]
    | some (.table .dotted inner) => do
      let inner ← put? rest value inner
      return Entries.insert key (.table .dotted inner) entries
    | some (.table .implied inner) =>
      if rest.length = 1 then none else do
        let inner ← put? rest value inner
        return Entries.insert key (.table .implied inner) entries
    | some _ => none

/-- Follows a header to the table that holds its last key and changes what stands there. In an
array of tables the way leads through the last one. -/
def reach? (change : Option Toml → Option Toml) : List String → Table → Option Table
  | [], _ => none
  | [key], entries => do
    let item ← change (Entries.find? key entries)
    return Entries.insert key item entries
  | key :: rest, entries =>
    match Entries.find? key entries with
    | none => do
      let inner ← reach? change rest []
      return entries ++ [(key, .table .implied inner)]
    | some (.table .inline _) => none
    | some (.table origin inner) => do
      let inner ← reach? change rest inner
      return Entries.insert key (.table origin inner) entries
    | some (.tables items) => do
      let inner ← reach? change rest (← items.getLast?)
      return Entries.insert key (.tables (items.dropLast ++ [inner])) entries
    | some _ => none

/-- A part of a document: a header and the values that are put under it. -/
structure Section where
  path : List String
  /-- Whether the header declares one more table of an array. -/
  repeats : Bool
  values : List (List String × Toml)

def putAll? (values : List (List String × Toml)) (table : Table) : Option Table :=
  values.foldlM (fun table (path, value) => put? path value table) table

/-- What a section makes of the item that its header leads to. -/
def Section.declare? (part : Section) (item : Option Toml) : Option Toml :=
  match part.repeats, item with
  | false, none => (putAll? part.values []).map (.table .declared)
  | false, some (.table .implied entries) => (putAll? part.values entries).map (.table .declared)
  | true, none => (putAll? part.values []).map fun table => .tables [table]
  | true, some (.tables items) =>
    (putAll? part.values []).map fun table => .tables (items ++ [table])
  | _, some _ => none

/-- The table of a document that begins with `values` before its first header. -/
def ofSections? (values : List (List String × Toml)) (parts : List Section) : Option Table := do
  let root ← putAll? values []
  parts.foldlM (fun table part => reach? part.declare? part.path table) root

end Toml

end SnippetBridge
