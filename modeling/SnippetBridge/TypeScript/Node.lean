import SnippetBridge.TypeScript.Kind

/-!
Concrete syntax trees. Every character of the source belongs to a leaf, blanks and comments
included, so the text of a node is the text of its leaves in order.
-/

namespace SnippetBridge.TypeScript

inductive Node where
  | leaf (kind : Kind) (text : String)
  | branch (kind : Kind) (children : List (Role × Node))

namespace Node

abbrev Children := List (Role × Node)

def kind : Node → Kind
  | .leaf kind _ => kind
  | .branch kind _ => kind

def children : Node → Children
  | .leaf _ _ => []
  | .branch _ children => children

mutual

def text : Node → String
  | .leaf _ text => text
  | .branch _ children => textOf children

def textOf : List (Role × Node) → String
  | [] => ""
  | (_, node) :: rest => node.text ++ textOf rest

end

/-- The first child in a role. -/
def childAs? (role : Role) (children : Children) : Option Node :=
  (children.find? fun child => child.1 == role).map Prod.snd

/-- The first child that is a part. -/
def firstPart? (children : Children) : Option Node :=
  (children.find? fun child => child.2.kind.isPart).map Prod.snd

end Node

end SnippetBridge.TypeScript
