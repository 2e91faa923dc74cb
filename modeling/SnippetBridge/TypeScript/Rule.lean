import SnippetBridge.Text.Scan
import SnippetBridge.TypeScript.Character
import SnippetBridge.TypeScript.Node

/-!
Grammar rules as data, and what a rule reads. Alternatives are tried in order and the first that
fits is taken. Blanks and comments may stand before every token; those before the first token of a
node are put in front of the node, so that a node begins and ends with a token.
-/

namespace SnippetBridge.TypeScript

open Text (Scan)

abbrev Parser := List Char → Option (Node.Children × List Char)

/-- A rule over symbols of type `σ`, each of which stands for a rule of the grammar. -/
inductive Rule (σ : Type) where
  /-- A leaf after blanks and comments. -/
  | token (kind : Kind) (scan : Scan (List Char))
  /-- A leaf that follows at once. -/
  | adjacent (kind : Kind) (scan : Scan (List Char))
  /-- A condition on the text that follows; reads nothing. -/
  | check (holds : List Char → Bool)
  | ahead (rule : Rule σ)
  | notAhead (rule : Rule σ)
  | all (rules : List (Rule σ))
  | any (rules : List (Rule σ))
  | many (rule : Rule σ)
  | optional (rule : Rule σ)
  | node (kind : Kind) (rule : Rule σ)
  /-- Gives the nodes that are read a role. -/
  | role (role : Role) (rule : Rule σ)
  /-- A node followed by suffixes, each of which makes a larger node of it. A suffix applies to
  nodes of some kinds and gives the kind of the larger node and the role that the smaller one has
  in it. -/
  | chain (base : Rule σ) (suffixes : List ((Kind → Bool) × Kind × Role × Rule σ))
  | symbol (name : σ)

namespace Trivia

/-- A comment: up to the end of the line, or up to the first closing mark. -/
def comment : Scan (List Char) :=
  (do
    Scan.word "//"
    return '/' :: '/' :: (← Scan.run (!isLineEnd ·)))
  <|> (do
    Scan.word "/*"
    return '/' :: '*' :: (← fun cs => closed cs))
where
  /-- The rest of a comment that has been opened. -/
  closed : List Char → Option (List Char × List Char)
    | '*' :: '/' :: rest => some (['*', '/'], rest)
    | c :: rest => (closed rest).map fun (text, rest) => (c :: text, rest)
    | [] => none

def piece : Scan (Role × Node) :=
  (do return (.plain, .leaf .blank (String.ofList (← Scan.run1 isBlank))))
  <|> (do return (.plain, .leaf .comment (String.ofList (← comment))))

/-- The blanks and comments that a text begins with. -/
def skip (cs : List Char) : Node.Children × List Char :=
  match Scan.many piece cs with
  | some (pieces, rest) => (pieces, rest)
  | none => ([], cs)

/-- Whether there is a line feed among the blanks in front of the next token. -/
def breaksLine (cs : List Char) : Bool :=
  (skip cs).1.any fun child =>
    match child.2 with
    | .leaf .blank text => text.toList.contains '\n'
    | _ => false

end Trivia

/-- Makes a node of children, leaving blanks and comments in front of it outside. -/
def Node.wrap (kind : Kind) (children : Node.Children) : Node.Children :=
  let (lead, core) := children.span fun child => child.2.kind.isTrivia
  lead ++ [(.plain, .branch kind core)]

/-- Gives all children but blanks and comments a role. -/
def Node.assign (role : Role) (children : Node.Children) : Node.Children :=
  children.map fun (old, node) => (if node.kind.isTrivia then old else role, node)

/-- The kind of the last child. -/
def Node.lastKind? (children : Node.Children) : Option Kind :=
  children.getLast?.map fun child => child.2.kind

namespace Rule

variable {σ : Type}

def leaf (kind : Kind) (scan : Scan (List Char)) : Parser := fun cs => do
  let (text, rest) ← scan cs
  return ([(.plain, .leaf kind (String.ofList text))], rest)

/-- Repeats a parser until it fails, but at most as often as `fuel` has characters. -/
def repeated (parse : Parser) : List Char → Parser
  | [], cs => some ([], cs)
  | _ :: fuel, cs =>
    match parse cs with
    | none => some ([], cs)
    | some (children, rest) => do
      let (more, rest) ← repeated parse fuel rest
      return (children ++ more, rest)

/-- Extends a node by suffixes until none applies, but at most as often as `fuel` has characters. -/
def extended (suffix : Kind → List Char → Option (Kind × Role × Node.Children × List Char)) :
    List Char → Node.Children → Parser
  | [], base, cs => some (base, cs)
  | _ :: fuel, base, cs =>
    match (Node.lastKind? base).bind fun kind => suffix kind cs with
    | none => some (base, cs)
    | some (kind, part, children, rest) =>
      extended suffix fuel (Node.wrap kind (Node.assign part base ++ children)) rest

mutual

/-- What a rule reads, given what each symbol reads. -/
def parse (resolve : σ → Parser) : Rule σ → Parser
  | token kind scan => fun cs => do
    let (lead, cs) := Trivia.skip cs
    let (children, rest) ← leaf kind scan cs
    return (lead ++ children, rest)
  | adjacent kind scan => leaf kind scan
  | check holds => fun cs => if holds cs then some ([], cs) else none
  | ahead rule => fun cs => ((parse resolve rule) cs).map fun _ => ([], cs)
  | notAhead rule => fun cs =>
    match (parse resolve rule) cs with
    | some _ => none
    | none => some ([], cs)
  | all rules => parseAll resolve rules
  | any rules => parseAny resolve rules
  | many rule => fun cs => repeated (parse resolve rule) cs cs
  | optional rule => fun cs =>
    match (parse resolve rule) cs with
    | some result => some result
    | none => some ([], cs)
  | node kind rule => fun cs =>
    ((parse resolve rule) cs).map fun (children, rest) => (Node.wrap kind children, rest)
  | role part rule => fun cs =>
    ((parse resolve rule) cs).map fun (children, rest) => (Node.assign part children, rest)
  | chain base suffixes => fun cs => do
    let (first, rest) ← (parse resolve base) cs
    extended (parseSuffix resolve suffixes) rest first rest
  | symbol name => resolve name

def parseAll (resolve : σ → Parser) : List (Rule σ) → Parser
  | [] => fun cs => some ([], cs)
  | rule :: rules => fun cs => do
    let (first, rest) ← (parse resolve rule) cs
    let (more, rest) ← (parseAll resolve rules) rest
    return (first ++ more, rest)

def parseAny (resolve : σ → Parser) : List (Rule σ) → Parser
  | [] => fun _ => none
  | rule :: rules => fun cs =>
    match (parse resolve rule) cs with
    | some result => some result
    | none => (parseAny resolve rules) cs

def parseSuffix (resolve : σ → Parser) : List ((Kind → Bool) × Kind × Role × Rule σ) →
    Kind → List Char → Option (Kind × Role × Node.Children × List Char)
  | [] => fun _ _ => none
  | (applies, kind, part, rule) :: suffixes => fun base cs =>
    match if applies base then (parse resolve rule) cs else none with
    | some (children, rest) => some (kind, part, children, rest)
    | none => (parseSuffix resolve suffixes) base cs

end

/-- What a symbol of a grammar reads when symbols are nested at most `depth` deep. -/
def read (grammar : σ → Rule σ) : Nat → σ → Parser
  | 0, _ => fun _ => none
  | depth + 1, name => parse (read grammar depth) (grammar name)

end Rule

end SnippetBridge.TypeScript
