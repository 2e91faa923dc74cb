import SnippetBridge.Proofs.Rhai.Literal
import SnippetBridge.Proofs.Value.Normal

/-!
What a literal shows of the way through JSON. Numbers that are not finite, `unknown` and the sign of
a zero are lost on that way, but they are lost in a literal too. What can be seen is that objects
which spell a reference have become references.
-/

namespace SnippetBridge

namespace Value

mutual

/-- A value in which every object that spells a reference is the reference. -/
def recognized : Value → Value
  | .array items => .array (recognizedItems items)
  | .object entries =>
    match spelledPath? entries with
    | some path => .reference path
    | none => .object (recognizedEntries entries)
  | .null => .null
  | .bool b => .bool b
  | .number x => .number x
  | .string s => .string s
  | .reference path => .reference path
  | .unknown => .unknown

def recognizedItems : List Value → List Value
  | [] => []
  | item :: rest => recognized item :: recognizedItems rest

def recognizedEntries : List (String × Value) → List (String × Value)
  | [] => []
  | (key, value) :: rest => (key, recognized value) :: recognizedEntries rest

end

end Value

namespace Rhai

open Value Host

variable (options : Options)

theorem treeText_normal_number (x : Binary64) (depth : Nat) :
    treeText options depth (.ofValue (Value.number x).normal) = numberText options x := by
  rw [normal]
  split
  · rename_i hfinite
    exact numberText_unsignedZero options hfinite
  · rename_i hinfinite
    rw [numberText, if_pos hinfinite]
    rfl

mutual

/-- A value whose references are well formed shows the same when it was written as JSON and read
again, but for the objects that spell references. -/
theorem treeText_normal (v : Value) (depth : Nat)
    (h : v.EveryReference fun path => DottedPath.isWellFormed path) :
    treeText options depth (.ofValue v.normal) =
      treeText options depth (.ofValue v.recognized) := by
  cases v with
  | null => rfl
  | bool b => rfl
  | number x => exact treeText_normal_number options x depth
  | string s => rfl
  | array items =>
      exact congrArg (arrayText depth) (itemTexts_normal items (depth + 1) h)
  | object entries =>
      rw [normal, recognized]
      cases spelledPath? entries with
      | some path => rfl
      | none => exact congrArg (objectText options depth) (entryTexts_normal entries (depth + 1) h)
  | reference path =>
      have hpath : DottedPath.isWellFormed path = true := h
      rw [normal, if_pos hpath]
      rfl
  | unknown => rfl

theorem itemTexts_normal (items : List Value) (depth : Nat)
    (h : ItemsEveryReference (fun path => DottedPath.isWellFormed path) items) :
    itemTexts options depth (Tree.ofItems (normalItems items)) =
      itemTexts options depth (Tree.ofItems (recognizedItems items)) := by
  cases items with
  | nil => rfl
  | cons item rest =>
      exact congrArg₂ List.cons (treeText_normal item depth h.1) (itemTexts_normal rest depth h.2)

theorem entryTexts_normal (entries : List (String × Value)) (depth : Nat)
    (h : EntriesEveryReference (fun path => DottedPath.isWellFormed path) entries) :
    entryTexts options depth (Tree.ofEntries (normalEntries entries)) =
      entryTexts options depth (Tree.ofEntries (recognizedEntries entries)) := by
  cases entries with
  | nil => rfl
  | cons entry rest =>
      obtain ⟨key, value⟩ := entry
      exact congrArg₂ (fun text texts => (key, text) :: texts) (treeText_normal value depth h.1)
        (entryTexts_normal rest depth h.2)

end

theorem render_normal {v : Value} (h : v.EveryReference fun path => DottedPath.isWellFormed path) :
    render options v.normal = render options v.recognized := by
  rw [render, render, renderTree, renderTree, treeText_normal options v 0 h]

end Rhai

end SnippetBridge
