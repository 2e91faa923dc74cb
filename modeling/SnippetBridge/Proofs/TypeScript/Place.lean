import SnippetBridge.Proofs.TypeScript.Comments
import SnippetBridge.Proofs.TypeScript.Holes

/-!
What is read of a syntax tree, place by place. A node is read as an expression, as a pattern or as
something else, and what is read of it depends on its children only by what is read of them in their
places. So a child can be replaced by any other that reads the same in its place.
-/

namespace SnippetBridge.TypeScript

/-- Whether nodes of a kind stand between other nodes only. -/
def Kind.isSeparator (kind : Kind) : Bool := !kind.isPart || kind == .optionalChain

/-- Whether nodes of a kind are functions inside of an expression. -/
def Kind.isFunction : Kind → Bool
  | .functionExpression | .generatorFunction | .arrowFunction => true
  | _ => false

/-- What a node is read as. -/
inductive Place where
  | program
  | statement
  /-- A part of a declaration of variables. -/
  | declarator
  | expression
  /-- A part of an object literal. -/
  | property
  /-- A list of parameters. -/
  | parameters
  | parameter
  | pattern
  /-- A part of an object pattern. -/
  | propertyPattern
  /-- Something that counts as it is spelled, such as a key. -/
  | spelled
  /-- Something that does not count. -/
  | silent

namespace Place

/-- The places of the parts of a function. -/
def insideFunction : Role → Place
  | .parameter => .pattern
  | .parameters => .parameters
  | _ => .silent

def insideStatement : Kind → Role → Place
  | .functionDeclaration, role | .generatorFunctionDeclaration, role => insideFunction role
  | .lexicalDeclaration, _ | .variableDeclaration, _ => .declarator
  | .expressionStatement, _ => .expression
  | _, _ => .silent

def insideDeclarator : Kind → Role → Place
  | .variableDeclarator, .value => .expression
  | _, _ => .silent

def insideExpression : Kind → Role → Place
  | .parenthesizedExpression, _ | .array, _ => .expression
  | .functionExpression, role | .generatorFunction, role | .arrowFunction, role =>
    insideFunction role
  | .memberExpression, .object | .subscriptExpression, .object => .expression
  | .memberExpression, _ | .string, _ => .spelled
  | .object, _ => .property
  | _, _ => .silent

def insideProperty : Kind → Role → Place
  | .pair, .key | .methodDefinition, .name => .spelled
  | .pair, .value => .expression
  | _, _ => .silent

def insideParameter : Kind → Role → Place
  | .requiredParameter, .pattern | .optionalParameter, .pattern => .pattern
  | .requiredParameter, .value | .optionalParameter, .value => .expression
  | .requiredParameter, _ | .optionalParameter, _ => .silent
  | _, _ => .spelled

def insidePattern : Kind → Role → Place
  | .assignmentPattern, .left | .objectAssignmentPattern, .left => .pattern
  | .assignmentPattern, .right | .objectAssignmentPattern, .right => .expression
  | .objectPattern, _ => .propertyPattern
  | .arrayPattern, _ | .restPattern, _ => .pattern
  | _, _ => .silent

def insidePropertyPattern : Kind → Role → Place
  | .objectAssignmentPattern, .right => .expression
  | .pairPattern, .value | .restPattern, _ => .pattern
  | _, _ => .spelled

/-- The place of a child, by its role and by the kind and the place of its parent. -/
def inside : Place → Kind → Role → Place
  | .program, _, _ => .statement
  | .statement, kind, role => insideStatement kind role
  | .declarator, kind, role => insideDeclarator kind role
  | .expression, kind, role => insideExpression kind role
  | .property, kind, role => insideProperty kind role
  | .parameters, _, _ => .parameter
  | .parameter, kind, role => insideParameter kind role
  | .pattern, kind, role => insidePattern kind role
  | .propertyPattern, kind, role => insidePropertyPattern kind role
  | .spelled, _, _ => .spelled
  | .silent, _, _ => .silent

end Place

/-! ### Readings -/

/-- What is read of a node. -/
inductive Reading where
  /-- What a statement declares, and whether it may stand in front of the first statement. -/
  | declared (isPreamble : Bool) (value : Option Value)
  | initializer (isDeclarator : Bool) (init : Option Expr)
  | expression (expr : Expr)
  | properties (properties : List (String × Expr))
  | patterns (patterns : List Pattern)
  | propertyPatterns (properties : List PropertyPattern)
  | itself (node : Node)
  | nothing

/-- The patterns of a list of parameters. -/
def Node.listParams : Node → List Pattern
  | .leaf _ _ => []
  | .branch _ children => params children

namespace Place

open Node in
/-- What is read of a node that is more than a separator. -/
def readingOf : Place → Node → Reading
  | .program, node => .declared false (node.firstStatement?.bind Statement.declared?)
  | .statement, node => .declared (isPreamble node.kind) node.toStatement.declared?
  | .declarator, node =>
    .initializer (node.kind == .variableDeclarator)
      (if node.kind = .variableDeclarator then exprAs? .value node.children else none)
  | .expression, node => .expression node.toExpr
  | .property, node => .properties (properties [(.plain, node)])
  | .parameters, node => .patterns node.listParams
  | .parameter, node => .patterns (params [(.plain, node)])
  | .pattern, node => .patterns [node.toPattern]
  | .propertyPattern, node => .propertyPatterns (propertyPatterns [(.plain, node)])
  | .spelled, node => .itself node
  | .silent, _ => .nothing

/-- What is read of a node in a place. A separator is read as itself, so no part reads like it. -/
def reading (place : Place) (node : Node) : Reading :=
  match place with
  | .silent => .nothing
  | place => if node.kind.isSeparator then .itself node else place.readingOf node

theorem reading_of_ne_silent {place : Place} (h : place ≠ .silent) (node : Node) :
    place.reading node =
      if node.kind.isSeparator then .itself node else place.readingOf node := by
  cases place <;> first | rfl | contradiction

theorem reading_eq_readingOf {place : Place} {node : Node} (h : node.kind.isSeparator = false) :
    place.reading node = place.readingOf node := by
  by_cases hplace : place = .silent
  · rw [hplace]
    rfl
  · rw [reading_of_ne_silent hplace, if_neg (by simp [h])]

theorem reading_branch {place : Place} {kind : Kind} (h : kind.isSeparator = false)
    (children : List (Role × Node)) :
    place.reading (.branch kind children) = place.readingOf (.branch kind children) :=
  reading_eq_readingOf h

/-- What reads the same in a place where it counts is the same, or both are more than separators. -/
theorem eq_or_of_reading_eq {place : Place} {node node' : Node} (hplace : place ≠ .silent)
    (h : place.reading node = place.reading node') :
    node = node' ∨ node.kind.isSeparator = false ∧ node'.kind.isSeparator = false ∧
      place.readingOf node = place.readingOf node' := by
  rw [reading_of_ne_silent hplace, reading_of_ne_silent hplace] at h
  -- No place gives the reading `itself` to a part but `spelled`, where it fixes the node.
  by_cases hnode : node.kind.isSeparator <;> by_cases hnode' : node'.kind.isSeparator
  · rw [if_pos hnode, if_pos hnode'] at h
    exact .inl (Reading.itself.inj h)
  · rw [if_pos hnode, if_neg hnode'] at h
    cases place <;> first | exact .inl (Reading.itself.inj h) | contradiction
  · rw [if_neg hnode, if_pos hnode'] at h
    cases place <;> first | exact .inl (Reading.itself.inj h) | contradiction
  · rw [if_neg hnode, if_neg hnode'] at h
    exact .inr ⟨by simpa using hnode, by simpa using hnode', h⟩

end Place

/-! ### Children -/

namespace Node

variable {role : Role} {node node' : Node} (front rest : List (Role × Node))

theorem exprAs?_eq_map (role : Role) (children : List (Role × Node)) :
    exprAs? role children = (childAs? role children).map toExpr := by
  induction children with
  | nil => rfl
  | cons child rest ih => by_cases h : child.1 = role <;> simp_all [exprAs?, childAs?]

theorem patternAs?_eq_map (role : Role) (children : List (Role × Node)) :
    patternAs? role children = (childAs? role children).map toPattern := by
  induction children with
  | nil => rfl
  | cons child rest ih => by_cases h : child.1 = role <;> simp_all [patternAs?, childAs?]

theorem firstExpr?_eq_map (children : List (Role × Node)) :
    firstExpr? children = (firstPart? children).map toExpr := by
  induction children with
  | nil => rfl
  | cons child rest ih => by_cases h : child.2.kind.isPart <;> simp_all [firstExpr?, firstPart?]

theorem firstPattern?_eq_map (children : List (Role × Node)) :
    firstPattern? children = (firstPart? children).map toPattern := by
  induction children with
  | nil => rfl
  | cons child rest ih => by_cases h : child.2.kind.isPart <;> simp_all [firstPattern?, firstPart?]

/-- What is asked about the child in a role is the same for another child in its stead. -/
theorem map_childAs?_replace {α : Type} {f : Node → α} {wanted : Role}
    (h : role = wanted → f node = f node') :
    (childAs? wanted (front ++ (role, node) :: rest)).map f =
      (childAs? wanted (front ++ (role, node') :: rest)).map f := by
  simp only [childAs?, List.find?_append, Option.map_map]
  cases front.find? fun child => child.1 == wanted with
  | some child => rfl
  | none => by_cases hrole : role = wanted <;> simp_all

theorem map_firstPart?_replace {α : Type} {f : Node → α} (hnode : node.kind.isPart)
    (hnode' : node'.kind.isPart) (h : f node = f node') :
    (firstPart? (front ++ (role, node) :: rest)).map f =
      (firstPart? (front ++ (role, node') :: rest)).map f := by
  simp only [firstPart?, List.find?_append, Option.map_map]
  cases front.find? fun child => child.2.kind.isPart with
  | some child => rfl
  | none => simp [hnode, hnode', h]

theorem flatMap_replace {α : Type} {f : Node → List α} (h : f node = f node') :
    (front ++ (role, node) :: rest).flatMap (fun child => f child.2) =
      (front ++ (role, node') :: rest).flatMap fun child => f child.2 := by
  simp only [List.flatMap_append, List.flatMap_cons, h]

theorem slots_replace {α : Type} {read : Node → α} {filled : Bool} (hnode : node.kind.isPart)
    (hnode' : node'.kind.isPart) (h : read node = read node') (front rest : List Node) :
    slots read filled (front ++ node :: rest) = slots read filled (front ++ node' :: rest) := by
  induction front generalizing filled with
  | nil => rw [List.nil_append, List.nil_append, slots_part read hnode, slots_part read hnode', h]
  | cons first front ih => simp only [List.cons_append, slots, ih]

/-- What a part of an object literal adds to its properties does not depend on the other parts. -/
theorem properties_eq_flatMap (children : List (Role × Node)) :
    properties children = children.flatMap fun child => properties [(.plain, child.2)] := by
  induction children with
  | nil => rfl
  | cons child rest ih =>
      obtain ⟨role, node⟩ := child
      rw [List.flatMap_cons, ← ih]
      cases node with
      | leaf kind text =>
          rw [properties, properties]
          split <;> rfl
      | branch kind children =>
          simp only [properties]
          split
          · split <;> rfl
          · split <;> rfl
          · rfl

theorem params_eq_flatMap (children : List (Role × Node)) :
    params children = children.flatMap fun child => params [(.plain, child.2)] := by
  induction children with
  | nil => rfl
  | cons child rest ih =>
      obtain ⟨role, node⟩ := child
      rw [List.flatMap_cons, ← ih]
      cases node with
      | leaf kind text =>
          rw [params, params]
          split <;> rfl
      | branch kind children =>
          simp only [params]
          split
          · split <;> rfl
          · split <;> rfl
          · rfl

theorem propertyPatterns_eq_flatMap (children : List (Role × Node)) :
    propertyPatterns children =
      children.flatMap fun child => propertyPatterns [(.plain, child.2)] := by
  induction children with
  | nil => rfl
  | cons child rest ih =>
      obtain ⟨role, node⟩ := child
      rw [List.flatMap_cons, ← ih]
      cases node with
      | leaf kind text =>
          rw [propertyPatterns, propertyPatterns]
          split
          · rfl
          · split <;> rfl
      | branch kind children =>
          simp only [propertyPatterns]
          split <;> rfl

theorem formalParams_eq_map (children : List (Role × Node)) :
    formalParams children = ((childAs? .parameters children).map listParams).getD [] := by
  induction children with
  | nil => rfl
  | cons child rest ih =>
      obtain ⟨role, node⟩ := child
      by_cases h : role = .parameters
      · subst h
        cases node <;> rfl
      · cases node <;> rw [formalParams, if_neg h, ih] <;> simp [childAs?, h]

/-! ### Replacing a child -/

theorem isPart_of_not_isSeparator {kind : Kind} (h : kind.isSeparator = false) : kind.isPart := by
  revert h
  cases kind <;> decide

theorem ne_optionalChain_of_not_isSeparator {kind : Kind} (h : kind.isSeparator = false) :
    kind ≠ .optionalChain := by
  rintro rfl
  contradiction

theorem eq_of_reading_spelled (h : Place.spelled.reading node = Place.spelled.reading node') :
    node = node' := by
  rcases Place.eq_or_of_reading_eq (by simp) h with rfl | ⟨-, -, hitself⟩
  · rfl
  · exact Reading.itself.inj hitself

theorem toExpr_eq_of_reading (h : Place.expression.reading node = Place.expression.reading node') :
    node.toExpr = node'.toExpr := by
  rcases Place.eq_or_of_reading_eq (by simp) h with rfl | ⟨-, -, hexpr⟩
  · rfl
  · exact Reading.expression.inj hexpr

theorem toPattern_eq_of_reading (h : Place.pattern.reading node = Place.pattern.reading node') :
    node.toPattern = node'.toPattern := by
  rcases Place.eq_or_of_reading_eq (by simp) h with rfl | ⟨-, -, hpattern⟩
  · rfl
  · simpa [Place.readingOf] using hpattern

/-- Inside of a function only its parameters count. -/
theorem functionParams_replace
    (h : (Place.insideFunction role).reading node = (Place.insideFunction role).reading node') :
    functionParams (front ++ (role, node) :: rest) =
      functionParams (front ++ (role, node') :: rest) := by
  have hparameter : role = .parameter → node.toPattern = node'.toPattern := by
    rintro rfl
    exact toPattern_eq_of_reading h
  have hparameters : role = .parameters → node.listParams = node'.listParams := by
    rintro rfl
    rcases Place.eq_or_of_reading_eq (by simp [Place.insideFunction]) h with rfl | ⟨-, -, hlist⟩
    · rfl
    · exact Reading.patterns.inj hlist
  rw [functionParams, functionParams, patternAs?_eq_map, patternAs?_eq_map,
    formalParams_eq_map (front ++ _), formalParams_eq_map (front ++ _ :: rest),
    map_childAs?_replace front rest hparameter, map_childAs?_replace front rest hparameters]

theorem childAs?_replace {wanted : Role} (h : role = wanted → node = node') :
    childAs? wanted (front ++ (role, node) :: rest) =
      childAs? wanted (front ++ (role, node') :: rest) := by
  simpa using map_childAs?_replace (f := id) front rest h

/-- A child in another role does not count. -/
theorem childAs?_insert {wanted : Role} (h : role ≠ wanted) :
    childAs? wanted (front ++ (role, node) :: rest) = childAs? wanted (front ++ rest) := by
  simp [childAs?, List.find?_append, h]

/-- A child in a role that is filled does not count when it stands behind the first one. -/
theorem exists_childAs? (role : Role) (node : Node) (front : List (Role × Node)) :
    ∃ found, ∀ rest, childAs? role (front ++ (role, node) :: rest) = some found := by
  simp only [childAs?, List.find?_append]
  cases front.find? fun child => child.1 == role with
  | some child => exact ⟨child.2, fun _ => rfl⟩
  | none => exact ⟨node, fun _ => by simp⟩

theorem exprAs?_replace {wanted : Role} (h : role = wanted → node.toExpr = node'.toExpr) :
    exprAs? wanted (front ++ (role, node) :: rest) =
      exprAs? wanted (front ++ (role, node') :: rest) := by
  rw [exprAs?_eq_map, exprAs?_eq_map, map_childAs?_replace front rest h]

theorem patternAs?_replace {wanted : Role} (h : role = wanted → node.toPattern = node'.toPattern) :
    patternAs? wanted (front ++ (role, node) :: rest) =
      patternAs? wanted (front ++ (role, node') :: rest) := by
  rw [patternAs?_eq_map, patternAs?_eq_map, map_childAs?_replace front rest h]

theorem plainProperty?_replace (hrole : role ≠ .property) (hnode : node.kind ≠ .optionalChain)
    (hnode' : node'.kind ≠ .optionalChain) :
    plainProperty? (front ++ (role, node) :: rest) =
      plainProperty? (front ++ (role, node') :: rest) := by
  have hchain : (node.kind == .optionalChain) = (node'.kind == .optionalChain) := by
    rw [beq_false_of_ne hnode, beq_false_of_ne hnode']
  have hproperty : role = .property → node = node' := fun h => absurd h hrole
  simp only [plainProperty?, List.any_append, List.any_cons, hchain,
    childAs?_replace front rest hproperty]

theorem properties_replace (h : Place.property.reading node = Place.property.reading node') :
    properties (front ++ (role, node) :: rest) =
      properties (front ++ (role, node') :: rest) := by
  rcases Place.eq_or_of_reading_eq (by simp) h with rfl | ⟨-, -, hnode⟩
  · rfl
  · have hparts : properties [(.plain, node)] = properties [(.plain, node')] :=
      Reading.properties.inj hnode
    rw [properties_eq_flatMap, properties_eq_flatMap (front ++ _)]
    exact flatMap_replace (f := fun part => properties [(.plain, part)]) front rest hparts

theorem params_replace (h : Place.parameter.reading node = Place.parameter.reading node') :
    params (front ++ (role, node) :: rest) = params (front ++ (role, node') :: rest) := by
  rcases Place.eq_or_of_reading_eq (by simp) h with rfl | ⟨-, -, hnode⟩
  · rfl
  · have hparts : params [(.plain, node)] = params [(.plain, node')] :=
      Reading.patterns.inj hnode
    rw [params_eq_flatMap, params_eq_flatMap (front ++ _)]
    exact flatMap_replace (f := fun part => params [(.plain, part)]) front rest hparts

theorem propertyPatterns_replace
    (h : Place.propertyPattern.reading node = Place.propertyPattern.reading node') :
    propertyPatterns (front ++ (role, node) :: rest) =
      propertyPatterns (front ++ (role, node') :: rest) := by
  rcases Place.eq_or_of_reading_eq (by simp) h with rfl | ⟨-, -, hnode⟩
  · rfl
  · have hparts : propertyPatterns [(.plain, node)] = propertyPatterns [(.plain, node')] :=
      Reading.propertyPatterns.inj hnode
    rw [propertyPatterns_eq_flatMap, propertyPatterns_eq_flatMap (front ++ _)]
    exact flatMap_replace (f := fun part => propertyPatterns [(.plain, part)]) front rest hparts

theorem firstExpr?_replace
    (h : Place.expression.reading node = Place.expression.reading node') :
    firstExpr? (front ++ (role, node) :: rest) = firstExpr? (front ++ (role, node') :: rest) := by
  rcases Place.eq_or_of_reading_eq (by simp) h with rfl | ⟨hnode, hnode', -⟩
  · rfl
  · rw [firstExpr?_eq_map, firstExpr?_eq_map,
      map_firstPart?_replace front rest (isPart_of_not_isSeparator hnode)
        (isPart_of_not_isSeparator hnode') (toExpr_eq_of_reading h)]

theorem firstPattern?_replace (h : Place.pattern.reading node = Place.pattern.reading node') :
    firstPattern? (front ++ (role, node) :: rest) =
      firstPattern? (front ++ (role, node') :: rest) := by
  rcases Place.eq_or_of_reading_eq (by simp) h with rfl | ⟨hnode, hnode', -⟩
  · rfl
  · rw [firstPattern?_eq_map, firstPattern?_eq_map,
      map_firstPart?_replace front rest (isPart_of_not_isSeparator hnode)
        (isPart_of_not_isSeparator hnode') (toPattern_eq_of_reading h)]

theorem exprSlots_replace {filled : Bool}
    (h : Place.expression.reading node = Place.expression.reading node') :
    exprSlots filled (front ++ (role, node) :: rest) =
      exprSlots filled (front ++ (role, node') :: rest) := by
  rcases Place.eq_or_of_reading_eq (by simp) h with rfl | ⟨hnode, hnode', -⟩
  · rfl
  · rw [exprSlots_eq_slots, exprSlots_eq_slots, List.map_append, List.map_cons, List.map_append,
      List.map_cons, slots_replace (isPart_of_not_isSeparator hnode)
        (isPart_of_not_isSeparator hnode') (toExpr_eq_of_reading h)]

theorem patternSlots_replace {filled : Bool}
    (h : Place.pattern.reading node = Place.pattern.reading node') :
    patternSlots filled (front ++ (role, node) :: rest) =
      patternSlots filled (front ++ (role, node') :: rest) := by
  rcases Place.eq_or_of_reading_eq (by simp) h with rfl | ⟨hnode, hnode', -⟩
  · rfl
  · rw [patternSlots_eq_slots, patternSlots_eq_slots, List.map_append, List.map_cons,
      List.map_append, List.map_cons, slots_replace (isPart_of_not_isSeparator hnode)
        (isPart_of_not_isSeparator hnode') (toPattern_eq_of_reading h)]

theorem toExpr_of_isFunction {kind : Kind} (h : kind.isFunction) (children : List (Role × Node)) :
    (Node.branch kind children).toExpr = .function (functionParams children) := by
  cases kind
  case functionExpression | generatorFunction | arrowFunction =>
      rw [toExpr, functionParams]
      cases patternAs? .parameter children <;> rfl
  all_goals contradiction

theorem toExpr_replace {kind : Kind}
    (h : (Place.insideExpression kind role).reading node =
      (Place.insideExpression kind role).reading node') :
    (Node.branch kind (front ++ (role, node) :: rest)).toExpr =
      (Node.branch kind (front ++ (role, node') :: rest)).toExpr := by
  cases kind with
  | parenthesizedExpression => rw [toExpr, toExpr, firstExpr?_replace front rest h]
  | array => rw [toExpr, toExpr, exprSlots_replace front rest h]
  | functionExpression | generatorFunction | arrowFunction =>
      rw [toExpr_of_isFunction rfl, toExpr_of_isFunction rfl, functionParams_replace front rest h]
  | memberExpression =>
      -- Only the object is an expression; the other children are as they were.
      by_cases hrole : role = .object
      · subst hrole
        rcases Place.eq_or_of_reading_eq (by simp [Place.insideExpression]) h with
          rfl | ⟨hnode, hnode', -⟩
        · rfl
        · rw [toExpr, toExpr, exprAs?_replace front rest fun _ => toExpr_eq_of_reading h,
            plainProperty?_replace front rest (by decide)
              (ne_optionalChain_of_not_isSeparator hnode)
              (ne_optionalChain_of_not_isSeparator hnode')]
      · have hspelled : Place.insideExpression .memberExpression role = .spelled := by
          cases role <;> first | rfl | contradiction
        rw [hspelled] at h
        rw [eq_of_reading_spelled h]
  | subscriptExpression =>
      have hobject : role = .object → node.toExpr = node'.toExpr := by
        rintro rfl
        exact toExpr_eq_of_reading h
      rw [toExpr, toExpr, exprAs?_replace front rest hobject]
  | string => rw [eq_of_reading_spelled h]
  | object => rw [toExpr, toExpr, properties_replace front rest h]
  | _ => rfl

theorem toPattern_replace {kind : Kind}
    (h : (Place.insidePattern kind role).reading node =
      (Place.insidePattern kind role).reading node') :
    (Node.branch kind (front ++ (role, node) :: rest)).toPattern =
      (Node.branch kind (front ++ (role, node') :: rest)).toPattern := by
  cases kind with
  | assignmentPattern | objectAssignmentPattern =>
      have hleft : role = .left → node.toPattern = node'.toPattern := by
        rintro rfl
        exact toPattern_eq_of_reading h
      have hright : role = .right → node.toExpr = node'.toExpr := by
        rintro rfl
        exact toExpr_eq_of_reading h
      rw [toPattern, toPattern, patternAs?_replace front rest hleft,
        exprAs?_replace front rest hright]
  | objectPattern => rw [toPattern, toPattern, propertyPatterns_replace front rest h]
  | arrayPattern => rw [toPattern, toPattern, patternSlots_replace front rest h]
  | restPattern => rw [toPattern, toPattern, firstPattern?_replace front rest h]
  | _ => rfl

theorem properties_replace_inside {kind : Kind}
    (h : (Place.insideProperty kind role).reading node =
      (Place.insideProperty kind role).reading node') :
    properties [(.plain, .branch kind (front ++ (role, node) :: rest))] =
      properties [(.plain, .branch kind (front ++ (role, node') :: rest))] := by
  cases kind with
  | pair =>
      have hkey : role = .key → node = node' := by
        rintro rfl
        exact eq_of_reading_spelled h
      have hvalue : role = .value → node.toExpr = node'.toExpr := by
        rintro rfl
        exact toExpr_eq_of_reading h
      simp only [properties, childAs?_replace front rest hkey,
        exprAs?_replace front rest hvalue]
  | methodDefinition =>
      have hname : role = .name → node = node' := by
        rintro rfl
        exact eq_of_reading_spelled h
      simp only [properties, childAs?_replace front rest hname]
  | _ => simp only [properties]

theorem params_replace_inside {kind : Kind}
    (h : (Place.insideParameter kind role).reading node =
      (Place.insideParameter kind role).reading node') :
    params [(.plain, .branch kind (front ++ (role, node) :: rest))] =
      params [(.plain, .branch kind (front ++ (role, node') :: rest))] := by
  cases kind with
  | requiredParameter | optionalParameter =>
      have hpattern : role = .pattern → node.toPattern = node'.toPattern := by
        rintro rfl
        exact toPattern_eq_of_reading h
      have hvalue : role = .value → node.toExpr = node'.toExpr := by
        rintro rfl
        exact toExpr_eq_of_reading h
      simp only [params, patternAs?_replace front rest hpattern,
        exprAs?_replace front rest hvalue]
  | _ => rw [eq_of_reading_spelled h]

theorem propertyPatterns_replace_inside {kind : Kind}
    (h : (Place.insidePropertyPattern kind role).reading node =
      (Place.insidePropertyPattern kind role).reading node') :
    propertyPatterns [(.plain, .branch kind (front ++ (role, node) :: rest))] =
      propertyPatterns [(.plain, .branch kind (front ++ (role, node') :: rest))] := by
  cases kind with
  | objectAssignmentPattern =>
      -- The name on the left is the key as well, so it is as it was.
      by_cases hrole : role = .right
      · subst hrole
        have hleft : Role.right = .left → node = node' := fun h => by contradiction
        have hself : (Place.insidePattern .objectAssignmentPattern .right).reading node =
            (Place.insidePattern .objectAssignmentPattern .right).reading node' := h
        simp only [propertyPatterns, childAs?_replace front rest hleft,
          toPattern_replace front rest hself]
      · have hspelled : Place.insidePropertyPattern .objectAssignmentPattern role = .spelled := by
          cases role <;> first | rfl | contradiction
        rw [hspelled] at h
        rw [eq_of_reading_spelled h]
  | pairPattern =>
      by_cases hrole : role = .value
      · subst hrole
        have hkey : Role.value = .key → node = node' := fun h => by contradiction
        have htarget : Role.value = .value → node.toPattern = node'.toPattern :=
          fun _ => toPattern_eq_of_reading h
        simp only [propertyPatterns, childAs?_replace front rest hkey,
          patternAs?_replace front rest htarget]
      · have hspelled : Place.insidePropertyPattern .pairPattern role = .spelled := by
          cases role <;> first | rfl | contradiction
        rw [hspelled] at h
        rw [eq_of_reading_spelled h]
  | restPattern => simp only [propertyPatterns, firstPattern?_replace front rest h]
  | _ => rw [eq_of_reading_spelled h]

theorem initializer?_replace
    (h : Place.declarator.reading node = Place.declarator.reading node') :
    initializer? (front ++ (role, node) :: rest) =
      initializer? (front ++ (role, node') :: rest) := by
  rcases Place.eq_or_of_reading_eq (by simp) h with rfl | ⟨-, -, hnode⟩
  · rfl
  · obtain ⟨hkind, hinit⟩ := Reading.initializer.inj hnode
    simp only [initializer?, List.find?_append]
    cases front.find? fun child => child.2.kind == .variableDeclarator with
    | some child => rfl
    | none =>
        -- The child is the first declarator, or neither of the two is one.
        by_cases hdeclarator : node.kind = .variableDeclarator
        · have hdeclarator' : node'.kind = .variableDeclarator := by
            simpa [hdeclarator] using hkind.symm
          simpa [hdeclarator, hdeclarator'] using hinit
        · have hdeclarator' : node'.kind ≠ .variableDeclarator := by
            simpa [hdeclarator] using hkind.symm
          simp [hdeclarator, hdeclarator']

theorem toStatement_replace {kind : Kind}
    (h : (Place.insideStatement kind role).reading node =
      (Place.insideStatement kind role).reading node') :
    (Node.branch kind (front ++ (role, node) :: rest)).toStatement =
      (Node.branch kind (front ++ (role, node') :: rest)).toStatement := by
  cases kind with
  | functionDeclaration | generatorFunctionDeclaration =>
      simp only [toStatement, kind_branch, children_branch]
      rw [functionParams_replace front rest h]
  | lexicalDeclaration | variableDeclaration =>
      simp only [toStatement, kind_branch, children_branch]
      rw [initializer?_replace front rest h]
  | expressionStatement =>
      simp only [toStatement, kind_branch, children_branch]
      rw [firstExpr?_replace front rest h]
  | _ => rfl

theorem firstStatement?_replace {kind : Kind}
    (h : Place.statement.reading node = Place.statement.reading node') :
    (firstStatement? (.branch kind (front ++ (role, node) :: rest))).bind Statement.declared? =
      (firstStatement? (.branch kind (front ++ (role, node') :: rest))).bind
        Statement.declared? := by
  rcases Place.eq_or_of_reading_eq (by simp) h with rfl | ⟨hnode, hnode', hread⟩
  · rfl
  · obtain ⟨hpreamble, hdeclared⟩ := Reading.declared.inj hread
    simp only [firstStatement?, children_branch, List.find?_append]
    cases front.find? fun child => child.2.kind.isPart && !isPreamble child.2.kind with
    | some child => rfl
    | none =>
        by_cases hfirst : isPreamble node.kind <;>
          simp_all [isPart_of_not_isSeparator]

end Node

/-- A child can be replaced by any other of which the same is read in its place. -/
theorem Place.reading_replace {place : Place} {kind : Kind} (hkind : kind.isSeparator = false)
    {role : Role} {node node' : Node}
    (h : (place.inside kind role).reading node = (place.inside kind role).reading node')
    (front rest : List (Role × Node)) :
    place.reading (.branch kind (front ++ (role, node) :: rest)) =
      place.reading (.branch kind (front ++ (role, node') :: rest)) := by
  rw [reading_branch hkind, reading_branch hkind]
  cases place with
  | program => exact congrArg (Reading.declared false) (Node.firstStatement?_replace front rest h)
  | statement =>
      rw [readingOf, readingOf, Node.toStatement_replace front rest h]
      rfl
  | declarator =>
      by_cases hdeclarator : kind = .variableDeclarator
      · subst hdeclarator
        have hread (children : List (Role × Node)) :
            declarator.readingOf (.branch .variableDeclarator children) =
              .initializer true (Node.exprAs? .value children) :=
          rfl
        have hvalue : role = .value → node.toExpr = node'.toExpr := by
          rintro rfl
          exact Node.toExpr_eq_of_reading h
        rw [hread, hread, Node.exprAs?_replace front rest hvalue]
      · simp [readingOf, hdeclarator]
  | expression => exact congrArg Reading.expression (Node.toExpr_replace front rest h)
  | property => exact congrArg Reading.properties (Node.properties_replace_inside front rest h)
  | parameters => exact congrArg Reading.patterns (Node.params_replace front rest h)
  | parameter => exact congrArg Reading.patterns (Node.params_replace_inside front rest h)
  | pattern =>
      rw [readingOf, readingOf, Node.toPattern_replace front rest h]
  | propertyPattern =>
      exact congrArg Reading.propertyPatterns (Node.propertyPatterns_replace_inside front rest h)
  | spelled => rw [Node.eq_of_reading_spelled h]
  | silent => rfl

end SnippetBridge.TypeScript
