import SnippetBridge.Proofs.TypeScript.Place
import SnippetBridge.Proofs.Value.Decidable

/-!
Spellings that declare the same value. Parentheses, shorthand properties, brackets around a lone
parameter, types and marks of parameters, and the form of a function can be changed anywhere in a
tree. Each change alone keeps what is read in its place, and so does any sequence of changes.
-/

namespace SnippetBridge.TypeScript

namespace Node

/-- Punctuation between the parts of a node. -/
abbrev mark (text : String) : Role × Node := (.plain, .leaf .mark text)

/-! ### Parentheses and parameters -/

theorem toExpr_parenthesized {node : Node} (h : node.kind.isSeparator = false) :
    (Node.branch .parenthesizedExpression [mark "(", (.plain, node), mark ")"]).toExpr =
      node.toExpr := by
  have hmark : (Node.leaf .mark "(").kind.isPart = false := rfl
  rw [toExpr, firstExpr?, if_neg (ne_true_of_eq_false hmark), firstExpr?,
    if_pos (isPart_of_not_isSeparator h)]
  rfl

/-- The type of a parameter does not count. -/
theorem params_annotated {kind : Kind}
    (hkind : kind = .requiredParameter ∨ kind = .optionalParameter)
    (front rest types : List (Role × Node)) :
    params [(.plain, .branch kind (front ++ (.plain, .branch .typeNode types) :: rest))] =
      params [(.plain, .branch kind (front ++ rest))] := by
  have hpattern : Role.plain ≠ .pattern := by decide
  have hvalue : Role.plain ≠ .value := by decide
  rcases hkind with rfl | rfl
  all_goals
    simp only [params, patternAs?_eq_map, exprAs?_eq_map, childAs?_insert front rest hpattern,
      childAs?_insert front rest hvalue]

/-- The question mark of a parameter does not count. -/
theorem params_marked (front rest : List (Role × Node)) (target : Node) :
    params [(.plain,
        .branch .optionalParameter (front ++ (.pattern, target) :: mark "?" :: rest))] =
      params [(.plain, .branch .requiredParameter (front ++ (.pattern, target) :: rest))] := by
  -- The kind counts in a parameter without a pattern only, and here there is one.
  obtain ⟨found, hpattern⟩ := exists_childAs? .pattern target front
  have hvalue : childAs? .value (front ++ (.pattern, target) :: mark "?" :: rest) =
      childAs? .value (front ++ (.pattern, target) :: rest) := by
    simp [childAs?, List.find?_append]
  simp only [params, patternAs?_eq_map, exprAs?_eq_map, hpattern, hvalue]
  cases childAs? .value (front ++ (.pattern, target) :: rest) <;> rfl

/-! ### Functions -/

/-- The children of a function that hold its parameters. -/
def parameterParts (children : Children) : Children :=
  children.filter fun child => child.1 == .parameter || child.1 == .parameters

/-- A list of parameters that is a name in brackets. -/
def nameList (name : String) : Node :=
  .branch .formalParameters [mark "(",
    (.plain, .branch .requiredParameter [(.pattern, .leaf .identifier name)]), mark ")"]

/-- Functions keep their list of parameters, but a lone name may lose its brackets. -/
inductive SameParameters (children children' : Children) : Prop where
  | kept (h : parameterParts children = parameterParts children')
  | lone (name : String) (h : parameterParts children = [(.parameter, .leaf .identifier name)])
      (h' : parameterParts children' = [(.parameters, nameList name)])

theorem childAs?_parameterParts {role : Role} (h : role = .parameter ∨ role = .parameters)
    (children : Children) : childAs? role (parameterParts children) = childAs? role children := by
  rw [childAs?, childAs?, parameterParts, List.find?_filter]
  congr 1
  refine congrFun (congrArg _ (funext fun child => ?_)) children
  rcases h with rfl | rfl <;> cases child.1 <;> rfl

theorem functionParams_parameterParts (children : Children) :
    functionParams (parameterParts children) = functionParams children := by
  simp only [functionParams, patternAs?_eq_map, formalParams_eq_map,
    childAs?_parameterParts (.inl rfl), childAs?_parameterParts (.inr rfl)]

theorem functionParams_eq {children children' : Children} (h : SameParameters children children') :
    functionParams children = functionParams children' := by
  rw [← functionParams_parameterParts children, ← functionParams_parameterParts children']
  cases h with
  | kept h => rw [h]
  | lone name h h' =>
      rw [h, h']
      rfl

theorem reading_of_isFunction {kind : Kind} (h : kind.isFunction) (children : Children) :
    Place.expression.reading (.branch kind children) =
      .expression (.function (functionParams children)) := by
  have hkind : kind.isSeparator = false := by
    revert h
    cases kind <;> decide
  rw [Place.reading_branch hkind, Place.readingOf, toExpr_of_isFunction h]

/-- The statements whose expression is a node: the first variable of a declaration is initialized
with it, or it is the statement itself. -/
inductive Carries (expr : Node) : Node → Prop where
  | initializer {kind : Kind} {children : Children} {role : Role} {declarator : Node}
      (hkind : kind = .lexicalDeclaration ∨ kind = .variableDeclaration)
      (hfirst : children.find? (fun child => child.2.kind == .variableDeclarator) =
        some (role, declarator))
      (hvalue : childAs? .value declarator.children = some expr) :
      Carries expr (.branch kind children)
  | statement {children : Children} (hfirst : firstPart? children = some expr) :
      Carries expr (.branch .expressionStatement children)

theorem reading_of_carries {expr node : Node} (h : Carries expr node) :
    Place.statement.reading node = .declared false expr.toExpr.declared? := by
  cases h with
  | @initializer kind children role declarator hkind hfirst hvalue =>
      have hinit : initializer? children = some expr.toExpr := by
        rw [initializer?, hfirst]
        simp only [exprAs?_eq_map, hvalue, Option.map_some]
      rcases hkind with rfl | rfl
      all_goals
        rw [Place.reading_branch rfl, Place.readingOf, toStatement]
        simp only [kind_branch, children_branch, hinit]
        rfl
  | statement hfirst =>
      rw [Place.reading_branch rfl, Place.readingOf, toStatement]
      simp only [kind_branch, children_branch, firstExpr?_eq_map, hfirst]
      rfl

end Node

open Node

/-! ### Changes of spelling -/

/-- Trees that differ in their spelling only, in the place that they have. It is the least
equivalence that holds of each single change and is kept by the nodes around it. -/
inductive Respelled : Place → Node → Node → Prop where
  | refl (place : Place) (node : Node) : Respelled place node node
  | symm {place : Place} {node node' : Node} (h : Respelled place node node') :
      Respelled place node' node
  | trans {place : Place} {a b c : Node} (h : Respelled place a b) (h' : Respelled place b c) :
      Respelled place a c
  /-- The change of a part. -/
  | inside {place : Place} {kind : Kind} {role : Role} {node node' : Node}
      (front rest : List (Role × Node)) (hkind : kind.isSeparator = false)
      (h : Respelled (place.inside kind role) node node') :
      Respelled place (.branch kind (front ++ (role, node) :: rest))
        (.branch kind (front ++ (role, node') :: rest))
  /-- What does not count, such as a type or the body of a function, can be anything. -/
  | silent (node node' : Node) : Respelled .silent node node'
  | parenthesized {node : Node} (hnode : node.kind.isSeparator = false) :
      Respelled .expression node
        (.branch .parenthesizedExpression [mark "(", (.plain, node), mark ")"])
  /-- From `x` to `x: x` in an object literal, where the value is read as a name. Words such as
  `yield` have another meaning there. -/
  | property {kind : Kind} (hkind : kind = .identifier ∨ kind = .undefined) (name : String) :
      Respelled .property (.leaf .shorthandPropertyIdentifier name)
        (.branch .pair
          [(.key, .leaf .propertyIdentifier name), mark ":", (.value, .leaf kind name)])
  /-- From `x` to `x: x` in an object pattern. -/
  | target (name : String) :
      Respelled .propertyPattern (.leaf .shorthandPropertyIdentifierPattern name)
        (.branch .pairPattern [(.key, .leaf .propertyIdentifier name), mark ":",
          (.value, .leaf .identifier name)])
  /-- From `x = d` to `x: x = d` in an object pattern. -/
  | defaulted (name : String) (value : Node) :
      Respelled .propertyPattern
        (.branch .objectAssignmentPattern [(.left, .leaf .shorthandPropertyIdentifierPattern name),
          mark "=", (.right, value)])
        (.branch .pairPattern [(.key, .leaf .propertyIdentifier name), mark ":",
          (.value, .branch .assignmentPattern
            [(.left, .leaf .identifier name), mark "=", (.right, value)])])
  /-- A parameter gets a type. -/
  | annotated {kind : Kind} (hkind : kind = .requiredParameter ∨ kind = .optionalParameter)
      (front rest types : List (Role × Node)) :
      Respelled .parameter (.branch kind (front ++ rest))
        (.branch kind (front ++ (.plain, .branch .typeNode types) :: rest))
  /-- A parameter gets a question mark. -/
  | marked (front rest : List (Role × Node)) (target : Node) :
      Respelled .parameter (.branch .requiredParameter (front ++ (.pattern, target) :: rest))
        (.branch .optionalParameter (front ++ (.pattern, target) :: mark "?" :: rest))
  /-- A function gets another form, such as `(x) => x` for `x => x`. -/
  | function {kind kind' : Kind} {children children' : List (Role × Node)} (hkind : kind.isFunction)
      (hkind' : kind'.isFunction) (h : SameParameters children children') :
      Respelled .expression (.branch kind children) (.branch kind' children')
  /-- From an initializer to an expression on its own. -/
  | carrier {expr node node' : Node} (h : Carries expr node) (h' : Carries expr node') :
      Respelled .statement node node'
  /-- From the declaration of a function to a function that is an expression. -/
  | declaration {kind kind' : Kind} {children children' : List (Role × Node)} {node : Node}
      (hkind : kind = .functionDeclaration ∨ kind = .generatorFunctionDeclaration)
      (hkind' : kind'.isFunction) (h : Carries (.branch kind' children') node)
      (hparams : SameParameters children children') :
      Respelled .statement (.branch kind children) node

/-- A change of spelling keeps what is read. -/
theorem reading_of_respelled {place : Place} {node node' : Node} (h : Respelled place node node') :
    place.reading node = place.reading node' := by
  induction h with
  | refl => rfl
  | symm _ ih => exact ih.symm
  | trans _ _ ih ih' => exact ih.trans ih'
  | inside front rest hkind _ ih => exact Place.reading_replace hkind ih front rest
  | silent => rfl
  | parenthesized hnode =>
      rw [Place.reading_eq_readingOf hnode, Place.readingOf, ← toExpr_parenthesized hnode]
      rfl
  | property hkind name => rcases hkind with rfl | rfl <;> rfl
  | target name => rfl
  | defaulted name value => rfl
  | annotated hkind front rest types =>
      have hparams := params_annotated hkind front rest types
      rcases hkind with rfl | rfl <;> exact congrArg Reading.patterns hparams.symm
  | marked front rest target =>
      exact congrArg Reading.patterns (params_marked front rest target).symm
  | function hkind hkind' h =>
      rw [reading_of_isFunction hkind, reading_of_isFunction hkind', functionParams_eq h]
  | carrier h h' => rw [reading_of_carries h, reading_of_carries h']
  | declaration hkind hkind' h hparams =>
      rw [reading_of_carries h, toExpr_of_isFunction hkind', ← functionParams_eq hparams]
      rcases hkind with rfl | rfl <;> rfl

theorem Node.declared_eq_of_respelled {program program' : Node} (h : program.Tidy)
    (h' : program'.Tidy) (hsame : Respelled .program program.bare program'.bare) :
    program.firstStatement?.bind Statement.declared? =
      program'.firstStatement?.bind Statement.declared? := by
  rw [← firstStatement?_bare h, ← firstStatement?_bare h']
  rcases Place.eq_or_of_reading_eq (by simp) (reading_of_respelled hsame) with
    hbare | ⟨-, -, hread⟩
  · rw [hbare]
  · exact (Reading.declared.inj hread).2

/-- Programs that differ in their spelling only declare the same value, whatever tidy trees they
are; so sources declare the same value if their trees differ in their spelling only. -/
theorem declared_of_respelled {program program' : Node}
    (hsame : Respelled .program program.bare program'.bare) :
    (program.Tidy → program'.Tidy →
        program.firstStatement?.bind Statement.declared? =
          program'.firstStatement?.bind Statement.declared?) ∧
      ∀ {source source' : String}, Node.ofSource? source = some program →
        Node.ofSource? source' = some program' → declared source = declared source' := by
  refine ⟨fun h h' => Node.declared_eq_of_respelled h h' hsame, fun h h' => ?_⟩
  rw [declared, declared, statement_of_ofSource? h, statement_of_ofSource? h']
  exact congrArg Except.ok
    (Node.declared_eq_of_respelled (tidy_of_ofSource? h) (tidy_of_ofSource? h') hsame)

/-- A declared function and one that is an expression, with other spellings of their patterns and
default values, a type and a question mark. -/
theorem declared_of_respelled_function :
    declared "function f(\x7ba\x7d, b = (true)) \x7b\x7d" =
        declared "(\x7ba: a\x7d, b?: T = true) => 2" ∧
      declared "(\x7ba: a\x7d, b?: T = true) => 2" =
        .ok (some (.object [("a", .null), ("b", .bool true)])) := by
  refine ⟨?_, by decide +kernel⟩
  have htree : (Node.ofSource? "function f(\x7ba\x7d, b = (true)) \x7b\x7d").map bare =
      some (.branch .program [(.plain, .branch .functionDeclaration [mark "function",
        (.name, .leaf .identifier "f"),
        (.parameters, .branch .formalParameters [mark "(",
          (.plain, .branch .requiredParameter [(.pattern, .branch .objectPattern [mark "\x7b",
            (.plain, .leaf .shorthandPropertyIdentifierPattern "a"), mark "\x7d"])]),
          mark ",",
          (.plain, .branch .requiredParameter [(.pattern, .leaf .identifier "b"), mark "=",
            (.value, .branch .parenthesizedExpression
              [mark "(", (.plain, .leaf .trueLiteral "true"), mark ")"])]),
          mark ")"]),
        (.plain, .branch .statementBlock [mark "\x7b", mark "\x7d"])])]) := by
    decide +kernel
  have htree' : (Node.ofSource? "(\x7ba: a\x7d, b?: T = true) => 2").map bare =
      some (.branch .program [(.plain, .branch .expressionStatement [
        (.plain, .branch .arrowFunction [
          (.parameters, .branch .formalParameters [mark "(",
            (.plain, .branch .requiredParameter [(.pattern, .branch .objectPattern [mark "\x7b",
              (.plain, .branch .pairPattern [(.key, .leaf .propertyIdentifier "a"), mark ":",
                (.value, .leaf .identifier "a")]), mark "\x7d"])]),
            mark ",",
            (.plain, .branch .optionalParameter [(.pattern, .leaf .identifier "b"), mark "?",
              (.plain, .branch .typeNode [mark ":", (.plain, .leaf .identifier "T")]), mark "=",
              (.value, .leaf .trueLiteral "true")]),
            mark ")"]),
          mark "=>", (.plain, .leaf .number "2")])])]) := by
    decide +kernel
  obtain ⟨program, hprogram, hbare⟩ := Option.map_eq_some_iff.mp htree
  obtain ⟨program', hprogram', hbare'⟩ := Option.map_eq_some_iff.mp htree'
  refine (declared_of_respelled ?_).2 hprogram hprogram'
  rw [hbare, hbare']
  -- First the parameters are respelled in the declaration, one by one.
  refine .inside [] [] rfl (.trans (.inside [_, _] _ rfl ?_)
    (.declaration (.inl rfl) rfl (.statement rfl) (.kept rfl)))
  refine .trans (.inside [_] _ rfl ?_) (.inside [_, _, _] _ rfl ?_)
  · exact .inside [] [] rfl (.inside [_] [_] rfl (.target "a"))
  · have hvalue : Respelled .expression (.leaf .trueLiteral "true") _ := .parenthesized rfl
    refine .trans (.inside [_, _] [] rfl hvalue.symm) ?_
    exact .trans (.annotated (.inl rfl) [_] _ _) (.marked [] _ _)

/-- The name `undefined` is bound in short form only: behind a key it is no pattern. -/
theorem declared_undefined_target :
    declared "function f(\x7bundefined\x7d) \x7b\x7d" =
        .ok (some (.object [("undefined", .null)])) ∧
      declared "function f(\x7bundefined: undefined\x7d) \x7b\x7d" =
        .ok (some (.object [("[unknown]", .unknown)])) := by
  decide +kernel

end SnippetBridge.TypeScript
