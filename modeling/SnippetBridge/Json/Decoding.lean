import SnippetBridge.Json.Reader

/-!
From JSON text to data of a wanted shape. A text can be at fault twice, in its form and in its
shape; the fault that comes first in the text is the one that is reported. A document that is only
looked at as a whole must be well formed before its shape counts, but an outermost array is looked
at item by item and an outermost record field by field.
-/

namespace SnippetBridge.Json

/-- How deep arrays and objects are nested; scalars have depth zero. -/
def depth : Json → Nat
  | .array items => itemsDepth items + 1
  | .object fields => fieldsDepth fields + 1
  | _ => 0
where
  itemsDepth : List Json → Nat
    | [] => 0
    | item :: rest => max item.depth (itemsDepth rest)
  fieldsDepth : List (String × Json) → Nat
    | [] => 0
    | (_, value) :: rest => max value.depth (fieldsDepth rest)

/-- What a draft amounts to once its content has the wanted shape. -/
def Draft.settle {α : Type} (draft : Draft) (content : α) : Except Error α :=
  if draft.ending = .complete then .ok content else .error .syntaxFault

/-- Decodes a document as a whole; only text after it is less urgent than its shape. -/
def Draft.decode {α : Type} (draft : Draft) (read : Json → Option α) : Except Error α :=
  match draft.content, draft.ending with
  | none, _ => .error .syntaxFault
  | _, .broken => .error .syntaxFault
  | some json, _ =>
    match read json with
    | none => .error .shapeFault
    | some content => draft.settle content

/-- Decodes an array item by item. -/
def Draft.decodeItems {α : Type} (draft : Draft) (read : Json → Option α) :
    Except Error (List α) :=
  match draft.content with
  | none => .error .syntaxFault
  | some (.array items) =>
    match items.mapM read with
    | none => .error .shapeFault
    | some contents => draft.settle contents
  | some _ => .error .shapeFault

/-- The fields called `names` of a record, in the order of `names`. A field that is repeated or does
not fit has no place in a record; other fields do not matter. -/
def recordFields? (names : List String) (fits : String → Json → Bool)
    (fields : List (String × Json)) : Option (List (Option Json)) :=
  let known := fields.filter fun field => names.contains field.1
  if (known.map Prod.fst).Nodup ∧ known.all fun (name, value) => fits name value then
    some (names.map fun name => (known.find? fun field => field.1 == name).map Prod.snd)
  else none

/-- The fields of a record that is written as an array, in the order of `names`. -/
def recordItems? (names : List String) (fits : String → Json → Bool) (items : List Json) :
    Option (List (Option Json)) :=
  if (names.zip items).all fun (name, value) => fits name value then
    some ((items.map some).take names.length ++ List.replicate (names.length - items.length) none)
  else none

/-- Decodes a record field by field. It is an object, or an array of the fields in the order of
`names`, which must end where the names end. If the fields are `required`, all must be there. -/
def Draft.decodeRecord (draft : Draft) (names : List String) (required : Bool)
    (fits : String → Json → Bool) : Except Error (List (Option Json)) :=
  match draft.content with
  | none => .error .syntaxFault
  | some (.object fields) =>
    match recordFields? names fits fields with
    | none => .error .shapeFault
    | some values => finish values
  | some (.array items) =>
    match recordItems? names fits items with
    | none => .error .shapeFault
    | some values => if names.length < items.length then .error .syntaxFault else finish values
  | some _ => .error .shapeFault
where
  finish (values : List (Option Json)) : Except Error (List (Option Json)) :=
    if draft.ending = .broken then .error .syntaxFault
    else if required ∧ values.any Option.isNone then .error .shapeFault
    else draft.settle values

end SnippetBridge.Json
