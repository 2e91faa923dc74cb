/-!
Bracketed blocks. An empty block is its two brackets; any other has one item to a line, indented by
two spaces for each level, with commas between the items.
-/

namespace SnippetBridge.Text

def indentation (depth : Nat) : List Char := List.replicate (2 * depth) ' '

/-- Items with a separator between neighbours. -/
def separated (separator : List Char) : List (List Char) → List Char
  | [] => []
  | [item] => item
  | item :: rest => item ++ separator ++ separated separator rest

/-- A block whose brackets stand at level `depth`, and whose items stand one level deeper. -/
def block (opening closing : List Char) (items : List (List Char)) (depth : Nat) : List Char :=
  if items.isEmpty then opening ++ closing
  else
    opening ++ '\n' :: indentation (depth + 1)
      ++ separated (',' :: '\n' :: indentation (depth + 1)) items
      ++ '\n' :: indentation depth ++ closing

end SnippetBridge.Text
