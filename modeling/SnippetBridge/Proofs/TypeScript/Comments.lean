import SnippetBridge.Proofs.TypeScript.Decidable
import SnippetBridge.Proofs.TypeScript.Shape
import SnippetBridge.TypeScript.Source

/-!
Blanks and comments do not count. What is read from a tidy tree is what is read from it once they
have been deleted; only in a computed key that is no string they belong to the key, and in a pattern
that stands where a name should be the key. Nor does it count what stands around the first statement
of a program.
-/

namespace SnippetBridge.TypeScript

namespace Node

/-! ### Deleting blanks and comments -/

/-- Whether the source text of a node counts. That of a computed key does, unless the key is a
string. So does that of a default for a pattern among the properties of another one; no valid
program has such a default. -/
def isSpelled (kind : Kind) (children : Children) : Bool :=
  match kind with
  | .computedPropertyName => !(firstPart? children).any fun inner => inner.kind == .string
  | .objectAssignmentPattern =>
    (childAs? .left children).any fun left => left.kind != .shorthandPropertyIdentifierPattern
  | _ => false

mutual

/-- A tree without its blanks and comments, those excepted whose source text counts. -/
def bare : Node → Node
  | .leaf kind text => .leaf kind text
  | .branch kind children =>
    .branch kind (if isSpelled kind children then children else bareChildren children)

def bareChildren : List (Role × Node) → List (Role × Node)
  | [] => []
  | (role, node) :: rest =>
    if node.kind.isTrivia then bareChildren rest else (role, node.bare) :: bareChildren rest

end

variable {kind parent : Kind} {role : Role} {node : Node} {children rest : List (Role × Node)}

@[simp] theorem kind_leaf (text : String) : (Node.leaf kind text).kind = kind := rfl

@[simp] theorem kind_branch : (Node.branch kind children).kind = kind := rfl

@[simp] theorem children_branch : (Node.branch kind children).children = children := rfl

@[simp] theorem kind_bare (node : Node) : node.bare.kind = node.kind := by
  cases node <;> rfl

theorem bare_branch (h : ¬isSpelled kind children) :
    (Node.branch kind children).bare = .branch kind (bareChildren children) := by
  simp [bare, h]

theorem bare_of_isSpelled (h : isSpelled kind children) :
    (Node.branch kind children).bare = .branch kind children := by
  simp [bare, h]

theorem bareChildren_of_isTrivia (h : node.kind.isTrivia) :
    bareChildren ((role, node) :: rest) = bareChildren rest := by
  rw [bareChildren, if_pos h]

theorem bareChildren_of_not_isTrivia (h : node.kind.isTrivia = false) :
    bareChildren ((role, node) :: rest) = (role, node.bare) :: bareChildren rest := by
  simp [bareChildren, h]

theorem Tidy.exists_leaf (h : node.Tidy) (htoken : node.kind.isToken) :
    ∃ text, node = .leaf node.kind text := by
  cases node with
  | leaf kind text => exact ⟨text, rfl⟩
  | branch kind children => exact absurd htoken (by simp [h.1])

/-- Tokens have nothing to delete. -/
theorem Tidy.bare_eq (h : node.Tidy) (htoken : node.kind.isToken) : node.bare = node := by
  obtain ⟨text, hnode⟩ := h.exists_leaf htoken
  rw [hnode]
  rfl

theorem Tidy.text_ne_comma (h : node.Tidy) (htrivia : node.kind.isTrivia) : node.text ≠ "," := by
  obtain ⟨text, hnode⟩ := h.exists_leaf (Kind.isToken_of_isTrivia htrivia)
  rw [hnode] at h htrivia ⊢
  exact h.2 htrivia

theorem isPart_of_isTrivia (h : kind.isTrivia) : kind.isPart = false := by
  simp [Kind.isPart, h]

theorem Tidy.bare_eq_of_not_isPart (h : node.Tidy) (hpart : node.kind.isPart = false) :
    node.bare = node := by
  apply h.bare_eq
  revert hpart
  cases node.kind <;> decide

theorem Tidy.not_isTrivia (h : (Node.branch kind children).Tidy) :
    (Node.branch kind children).kind.isTrivia = false :=
  Kind.not_isTrivia_of_not_isToken h.1

/-! ### Keys and roles -/

/-- A search for kinds that are neither blanks nor comments finds the same child without these. -/
theorem find?_bareChildren {p : Kind → Bool} (hp : ∀ kind, kind.isTrivia → p kind = false)
    (children : Children) :
    (bareChildren children).find? (fun child => p child.2.kind) =
      (children.find? fun child => p child.2.kind).map fun child => (child.1, child.2.bare) := by
  induction children with
  | nil => rfl
  | cons child rest ih =>
      obtain ⟨role, node⟩ := child
      by_cases htrivia : node.kind.isTrivia
      · rw [bareChildren_of_isTrivia htrivia, ih, List.find?_cons_of_neg (by simp [hp _ htrivia])]
      · rw [bareChildren_of_not_isTrivia (by simpa using htrivia)]
        by_cases hnode : p node.kind <;> simp [hnode, ih]

theorem firstPart?_bareChildren (children : Children) :
    firstPart? (bareChildren children) = (firstPart? children).map bare := by
  rw [firstPart?, find?_bareChildren fun _ => isPart_of_isTrivia, firstPart?, Option.map_map,
    Option.map_map]
  rfl

/-- Blanks and comments have no role, so the child in a role is the same without them. -/
theorem childAs?_bareChildren (role : Role) (hrole : role ≠ .plain)
    (h : TidyChildren parent children) :
    childAs? role (bareChildren children) = (childAs? role children).map bare := by
  induction children with
  | nil => rfl
  | cons child rest ih =>
      obtain ⟨r, node⟩ := child
      obtain ⟨⟨-, hfits⟩, hrest⟩ := h
      by_cases htrivia : node.kind.isTrivia
      · rw [if_pos htrivia] at hfits
        rw [bareChildren_of_isTrivia htrivia, ih hrest]
        simp [childAs?, hfits, hrole.symm]
      · rw [bareChildren_of_not_isTrivia (by simpa using htrivia)]
        have ih := ih hrest
        simp only [childAs?] at ih ⊢
        by_cases hr : r = role <;> simp [hr, ih]

theorem fits_of_childAs? (h : TidyChildren parent children) (hrole : role ≠ .plain)
    (hfound : childAs? role children = some node) :
    node.Tidy ∧ parent.admits role node.kind := by
  obtain ⟨⟨r, _⟩, hfind, rfl⟩ := Option.map_eq_some_iff.mp hfound
  obtain ⟨htidy, hfits⟩ := tidyChildren_iff.mp h _ (List.mem_of_find?_eq_some hfind)
  obtain rfl : r = role := by simpa using List.find?_some hfind
  split at hfits
  · exact absurd hfits hrole
  · exact ⟨htidy, hfits⟩

theorem contents_of_isTrivia (h : node.kind.isTrivia) : node.contents = [] := by
  simp only [Kind.isTrivia, Bool.or_eq_true, beq_iff_eq] at h
  rcases h with h | h <;> simp [contents, h]

theorem contents_bare (h : node.Tidy) : node.bare.contents = node.contents := by
  by_cases htoken : node.kind.isToken
  · rw [h.bare_eq htoken]
  · have hfragment : node.kind ≠ .stringFragment := by
      rintro hkind
      simp [hkind, Kind.isToken] at htoken
    have hescape : node.kind ≠ .escapeSequence := by
      rintro hkind
      simp [hkind, Kind.isToken] at htoken
    unfold contents
    split <;> simp_all

theorem flatMap_contents_bareChildren (h : TidyChildren parent children) :
    (bareChildren children).flatMap (fun child => child.2.contents) =
      children.flatMap fun child => child.2.contents := by
  induction children with
  | nil => rfl
  | cons child rest ih =>
      obtain ⟨role, node⟩ := child
      obtain ⟨⟨htidy, -⟩, hrest⟩ := h
      by_cases htrivia : node.kind.isTrivia
      · rw [bareChildren_of_isTrivia htrivia, ih hrest]
        simp [contents_of_isTrivia htrivia]
      · rw [bareChildren_of_not_isTrivia (by simpa using htrivia)]
        simp [contents_bare htidy, ih hrest]

theorem stringValue_bareChildren (h : TidyChildren parent children) (kind : Kind) :
    stringValue (.branch kind (bareChildren children)) = stringValue (.branch kind children) :=
  congrArg String.ofList (flatMap_contents_bareChildren h)

theorem stringValue_bare (h : node.Tidy) : node.bare.stringValue = node.stringValue := by
  cases node with
  | leaf kind text => rfl
  | branch kind children =>
      by_cases hspelled : isSpelled kind children
      · rw [bare_of_isSpelled hspelled]
      · rw [bare_branch hspelled, stringValue_bareChildren h.2]

/-- What may be the key of a property denotes the same key without blanks and comments. -/
theorem propertyKey_bare (h : node.Tidy) (hkey : Kind.pair.admits .key node.kind) :
    node.bare.propertyKey = node.propertyKey := by
  cases node with
  | leaf kind text => rfl
  | branch kind children =>
      have hbranch : kind = .string ∨ kind = .computedPropertyName := by
        have hkind := h.1
        revert hkey hkind
        cases kind <;> simp [Kind.admits, Kind.admitted?, Kind.isToken]
      rcases hbranch with rfl | rfl
      · exact stringValue_bare h
      · cases hpart : firstPart? children with
        | none => simp [bare, isSpelled, hpart]
        | some inner =>
            by_cases hstring : inner.kind = .string
            · have htidy : inner.Tidy := by
                obtain ⟨child, hfind, rfl⟩ := Option.map_eq_some_iff.mp hpart
                exact (tidyChildren_iff.mp h.2 _ (List.mem_of_find?_eq_some hfind)).1
              have hvalue := stringValue_bare htidy
              simp [bare, isSpelled, propertyKey, hpart, hstring, firstPart?_bareChildren, hvalue]
            · simp [bare, isSpelled, hpart, hstring]

theorem kind_of_admits_objectPattern (hbranch : kind.isToken = false)
    (h : Kind.objectPattern.admits role kind) :
    kind = .objectAssignmentPattern ∨ kind = .pairPattern ∨ kind = .restPattern := by
  revert hbranch
  simp only [Kind.admits, Kind.admitted?, Option.all_some, List.contains_cons, List.contains_nil,
    Bool.or_false, Bool.or_eq_true, beq_iff_eq] at h
  rcases h with rfl | rfl | h
  · decide
  · decide
  · exact fun _ => h

theorem propertyKey_bare_of_childAs? {key : Node} (h : TidyChildren parent children)
    (hrole : role ≠ .plain) (hkeys : parent.admitted? role = Kind.pair.admitted? .key)
    (hfound : childAs? role children = some key) : key.bare.propertyKey = key.propertyKey := by
  obtain ⟨htidy, hadmits⟩ := fits_of_childAs? h hrole hfound
  rw [Kind.admits, hkeys] at hadmits
  exact propertyKey_bare htidy hadmits

theorem plainProperty?_bareChildren (h : TidyChildren parent children) :
    plainProperty? (bareChildren children) = plainProperty? children := by
  have hany : ((bareChildren children).any fun child => child.2.kind == .optionalChain) =
      children.any fun child => child.2.kind == .optionalChain := by
    clear h
    induction children with
    | nil => rfl
    | cons child rest ih =>
        obtain ⟨role, node⟩ := child
        by_cases htrivia : node.kind.isTrivia
        · have hchain : node.kind ≠ .optionalChain := by
            rintro hkind
            simp [hkind, Kind.isTrivia] at htrivia
          rw [bareChildren_of_isTrivia htrivia, ih]
          simp [hchain]
        · rw [bareChildren_of_not_isTrivia (by simpa using htrivia)]
          simp [ih]
  simp only [plainProperty?, hany, childAs?_bareChildren .property (by decide) h]
  cases hproperty : childAs? .property children with
  | none => rfl
  | some property =>
      by_cases hkind : property.kind = .propertyIdentifier
      · have htidy := (fits_of_childAs? h (by decide) hproperty).1
        simp [htidy.bare_eq (by simp [hkind, Kind.isToken])]
      · simp [hkind]

/-! ### Expressions and patterns -/

mutual

theorem toExpr_bare (node : Node) (h : node.Tidy) : node.bare.toExpr = node.toExpr := by
  cases node with
  | leaf kind text => rfl
  | branch kind children =>
      by_cases hspelled : isSpelled kind children
      · rw [bare_of_isSpelled hspelled]
      · rw [bare_branch hspelled, toExpr.eq_def, toExpr.eq_def (.branch kind children)]
        simp only [firstExpr?_bareChildren children h.2, formalParams_bareChildren children h.2,
          patternAs?_bareChildren .parameter (by decide) children h.2, stringValue_bareChildren h.2,
          exprAs?_bareChildren .object (by decide) children h.2, plainProperty?_bareChildren h.2,
          exprSlots_bareChildren false children h.2, properties_bareChildren children h.2]

theorem exprAs?_bareChildren (role : Role) (hrole : role ≠ .plain) (children : List (Role × Node))
    {parent : Kind} (h : TidyChildren parent children) :
    exprAs? role (bareChildren children) = exprAs? role children := by
  cases children with
  | nil => rfl
  | cons child rest =>
      obtain ⟨r, node⟩ := child
      obtain ⟨⟨htidy, hfits⟩, hrest⟩ := h
      have ih := exprAs?_bareChildren role hrole rest hrest
      by_cases htrivia : node.kind.isTrivia
      · rw [if_pos htrivia] at hfits
        rw [bareChildren_of_isTrivia htrivia, ih, exprAs?, if_neg (by simp [hfits, hrole.symm])]
      · rw [bareChildren_of_not_isTrivia (by simpa using htrivia), exprAs?, exprAs?,
          toExpr_bare node htidy, ih]

theorem firstExpr?_bareChildren (children : List (Role × Node)) {parent : Kind}
    (h : TidyChildren parent children) :
    firstExpr? (bareChildren children) = firstExpr? children := by
  cases children with
  | nil => rfl
  | cons child rest =>
      obtain ⟨r, node⟩ := child
      obtain ⟨⟨htidy, -⟩, hrest⟩ := h
      have ih := firstExpr?_bareChildren rest hrest
      by_cases htrivia : node.kind.isTrivia
      · rw [bareChildren_of_isTrivia htrivia, ih, firstExpr?,
          if_neg (by simp [isPart_of_isTrivia htrivia])]
      · rw [bareChildren_of_not_isTrivia (by simpa using htrivia), firstExpr?, firstExpr?,
          kind_bare, toExpr_bare node htidy, ih]

theorem exprSlots_bareChildren (filled : Bool) (children : List (Role × Node)) {parent : Kind}
    (h : TidyChildren parent children) :
    exprSlots filled (bareChildren children) = exprSlots filled children := by
  cases children with
  | nil => rfl
  | cons child rest =>
      obtain ⟨r, node⟩ := child
      obtain ⟨⟨htidy, -⟩, hrest⟩ := h
      by_cases htrivia : node.kind.isTrivia
      · rw [bareChildren_of_isTrivia htrivia, exprSlots_bareChildren filled rest hrest, exprSlots,
          if_neg (by simp [isPart_of_isTrivia htrivia]), if_neg (htidy.text_ne_comma htrivia)]
      · rw [bareChildren_of_not_isTrivia (by simpa using htrivia), exprSlots, exprSlots,
          kind_bare, toExpr_bare node htidy, exprSlots_bareChildren true rest hrest,
          exprSlots_bareChildren false rest hrest, exprSlots_bareChildren filled rest hrest]
        by_cases hpart : node.kind.isPart
        · rw [if_pos hpart, if_pos hpart]
        · rw [htidy.bare_eq_of_not_isPart (by simpa using hpart)]

theorem properties_bareChildren (children : List (Role × Node)) {parent : Kind}
    (h : TidyChildren parent children) :
    properties (bareChildren children) = properties children := by
  match children with
  | [] => rfl
  | (r, .leaf kind text) :: rest =>
      have ih := properties_bareChildren rest h.2
      by_cases htrivia : (Node.leaf kind text).kind.isTrivia
      · have hname : kind ≠ .shorthandPropertyIdentifier := by
          rintro rfl
          contradiction
        rw [bareChildren_of_isTrivia htrivia, ih, properties, if_neg hname]
      · rw [bareChildren_of_not_isTrivia (by simpa using htrivia), bare, properties, properties, ih]
  | (r, .branch kind children) :: rest =>
      obtain ⟨⟨htidy, -⟩, hrest⟩ := h
      have ih := properties_bareChildren rest hrest
      rw [bareChildren_of_not_isTrivia htidy.not_isTrivia]
      by_cases hspelled : isSpelled kind children
      · rw [bare_of_isSpelled hspelled, properties.eq_def, properties.eq_def (_ :: rest)]
        simp only [ih]
      · rw [bare_branch hspelled, properties.eq_def, properties.eq_def (_ :: rest)]
        simp only [exprAs?_bareChildren .value (by decide) children htidy.2, ih,
          childAs?_bareChildren .key (by decide) htidy.2,
          childAs?_bareChildren .name (by decide) htidy.2]
        split
        · cases hfound : childAs? .key children with
          | none => rfl
          | some key =>
              have hkey := propertyKey_bare_of_childAs? htidy.2 (by decide) rfl hfound
              cases exprAs? .value children <;> simp [hkey]
        · cases hfound : childAs? .name children with
          | none => rfl
          | some name => simp [propertyKey_bare_of_childAs? htidy.2 (by decide) rfl hfound]
        · rfl

theorem formalParams_bareChildren (children : List (Role × Node)) {parent : Kind}
    (h : TidyChildren parent children) :
    formalParams (bareChildren children) = formalParams children := by
  match children with
  | [] => rfl
  | (r, .leaf kind text) :: rest =>
      obtain ⟨⟨-, hfits⟩, hrest⟩ := h
      have ih := formalParams_bareChildren rest hrest
      by_cases htrivia : (Node.leaf kind text).kind.isTrivia
      · rw [if_pos htrivia] at hfits
        rw [bareChildren_of_isTrivia htrivia, ih, formalParams, if_neg (by simp [hfits])]
      · rw [bareChildren_of_not_isTrivia (by simpa using htrivia), bare, formalParams,
          formalParams, ih]
  | (r, .branch kind children) :: rest =>
      obtain ⟨⟨htidy, -⟩, hrest⟩ := h
      have ih := formalParams_bareChildren rest hrest
      have hparams : params (if isSpelled kind children then children else bareChildren children) =
          params children := by
        split
        · rfl
        · exact params_bareChildren children htidy.2
      rw [bareChildren_of_not_isTrivia htidy.not_isTrivia, bare, formalParams, formalParams, ih]
      simp only [hparams]

theorem params_bareChildren (children : List (Role × Node)) {parent : Kind}
    (h : TidyChildren parent children) :
    params (bareChildren children) = params children := by
  match children with
  | [] => rfl
  | (r, .leaf kind text) :: rest =>
      have ih := params_bareChildren rest h.2
      by_cases htrivia : (Node.leaf kind text).kind.isTrivia
      · rw [bareChildren_of_isTrivia htrivia, ih, params,
          if_neg (by simpa using isPart_of_isTrivia htrivia)]
      · rw [bareChildren_of_not_isTrivia (by simpa using htrivia), bare, params, params, ih]
  | (r, .branch kind children) :: rest =>
      obtain ⟨⟨htidy, -⟩, hrest⟩ := h
      have ih := params_bareChildren rest hrest
      have hself := toPattern_bare (.branch kind children) htidy
      rw [bareChildren_of_not_isTrivia htidy.not_isTrivia]
      by_cases hspelled : isSpelled kind children
      · rw [bare_of_isSpelled hspelled, params.eq_def, params.eq_def (_ :: rest)]
        simp only [ih]
      · rw [bare_branch hspelled] at hself ⊢
        rw [params.eq_def, params.eq_def (_ :: rest)]
        simp only [patternAs?_bareChildren .pattern (by decide) children htidy.2,
          exprAs?_bareChildren .value (by decide) children htidy.2, hself, ih]

theorem toPattern_bare (node : Node) (h : node.Tidy) : node.bare.toPattern = node.toPattern := by
  cases node with
  | leaf kind text => rfl
  | branch kind children =>
      by_cases hspelled : isSpelled kind children
      · rw [bare_of_isSpelled hspelled]
      · have hproperties (hkind : kind = .objectPattern) :
            propertyPatterns (bareChildren children) = propertyPatterns children :=
          propertyPatterns_bareChildren children (hkind ▸ h.2)
        rw [bare_branch hspelled, toPattern.eq_def, toPattern.eq_def (.branch kind children)]
        simp only [firstPattern?_bareChildren children h.2,
          patternAs?_bareChildren .left (by decide) children h.2,
          exprAs?_bareChildren .right (by decide) children h.2,
          patternSlots_bareChildren false children h.2]
        split <;> simp_all

theorem patternAs?_bareChildren (role : Role) (hrole : role ≠ .plain)
    (children : List (Role × Node)) {parent : Kind} (h : TidyChildren parent children) :
    patternAs? role (bareChildren children) = patternAs? role children := by
  cases children with
  | nil => rfl
  | cons child rest =>
      obtain ⟨r, node⟩ := child
      obtain ⟨⟨htidy, hfits⟩, hrest⟩ := h
      have ih := patternAs?_bareChildren role hrole rest hrest
      by_cases htrivia : node.kind.isTrivia
      · rw [if_pos htrivia] at hfits
        rw [bareChildren_of_isTrivia htrivia, ih, patternAs?, if_neg (by simp [hfits, hrole.symm])]
      · rw [bareChildren_of_not_isTrivia (by simpa using htrivia), patternAs?, patternAs?,
          toPattern_bare node htidy, ih]

theorem firstPattern?_bareChildren (children : List (Role × Node)) {parent : Kind}
    (h : TidyChildren parent children) :
    firstPattern? (bareChildren children) = firstPattern? children := by
  cases children with
  | nil => rfl
  | cons child rest =>
      obtain ⟨r, node⟩ := child
      obtain ⟨⟨htidy, -⟩, hrest⟩ := h
      have ih := firstPattern?_bareChildren rest hrest
      by_cases htrivia : node.kind.isTrivia
      · rw [bareChildren_of_isTrivia htrivia, ih, firstPattern?,
          if_neg (by simp [isPart_of_isTrivia htrivia])]
      · rw [bareChildren_of_not_isTrivia (by simpa using htrivia), firstPattern?, firstPattern?,
          kind_bare, toPattern_bare node htidy, ih]

theorem patternSlots_bareChildren (filled : Bool) (children : List (Role × Node)) {parent : Kind}
    (h : TidyChildren parent children) :
    patternSlots filled (bareChildren children) = patternSlots filled children := by
  cases children with
  | nil => rfl
  | cons child rest =>
      obtain ⟨r, node⟩ := child
      obtain ⟨⟨htidy, -⟩, hrest⟩ := h
      by_cases htrivia : node.kind.isTrivia
      · rw [bareChildren_of_isTrivia htrivia, patternSlots_bareChildren filled rest hrest,
          patternSlots, if_neg (by simp [isPart_of_isTrivia htrivia]),
          if_neg (htidy.text_ne_comma htrivia)]
      · rw [bareChildren_of_not_isTrivia (by simpa using htrivia), patternSlots, patternSlots,
          kind_bare, toPattern_bare node htidy, patternSlots_bareChildren true rest hrest,
          patternSlots_bareChildren false rest hrest, patternSlots_bareChildren filled rest hrest]
        by_cases hpart : node.kind.isPart
        · rw [if_pos hpart, if_pos hpart]
        · rw [htidy.bare_eq_of_not_isPart (by simpa using hpart)]

theorem propertyPatterns_bareChildren (children : List (Role × Node))
    (h : TidyChildren .objectPattern children) :
    propertyPatterns (bareChildren children) = propertyPatterns children := by
  match children with
  | [] => rfl
  | (r, .leaf kind text) :: rest =>
      have ih := propertyPatterns_bareChildren rest h.2
      by_cases htrivia : (Node.leaf kind text).kind.isTrivia
      · have hname : kind ≠ .shorthandPropertyIdentifierPattern := by
          rintro rfl
          contradiction
        rw [bareChildren_of_isTrivia htrivia, ih, propertyPatterns, if_neg hname,
          if_neg (by simpa using isPart_of_isTrivia htrivia)]
      · rw [bareChildren_of_not_isTrivia (by simpa using htrivia), bare, propertyPatterns,
          propertyPatterns, ih]
  | (r, .branch kind children) :: rest =>
      obtain ⟨⟨htidy, hfits⟩, hrest⟩ := h
      have ih := propertyPatterns_bareChildren rest hrest
      have hself := toPattern_bare (.branch kind children) htidy
      have hkind : kind = .objectAssignmentPattern ∨ kind = .pairPattern ∨ kind = .restPattern := by
        rw [htidy.not_isTrivia] at hfits
        exact kind_of_admits_objectPattern htidy.1 (by simpa using hfits)
      rw [bareChildren_of_not_isTrivia htidy.not_isTrivia]
      rcases hkind with rfl | rfl | rfl
      · by_cases hspelled : isSpelled .objectAssignmentPattern children
        · rw [bare_of_isSpelled hspelled, propertyPatterns, propertyPatterns, ih]
        · rw [bare_branch hspelled] at hself ⊢
          rw [propertyPatterns, propertyPatterns, hself, ih,
            childAs?_bareChildren .left (by decide) htidy.2]
          cases hfound : childAs? .left children with
          | none => rfl
          | some left =>
              have hleft := (fits_of_childAs? htidy.2 (by decide) hfound).1
              have htoken : left.kind = .shorthandPropertyIdentifierPattern := by
                simpa [isSpelled, hfound] using hspelled
              simp [hleft.bare_eq (by simp [htoken, Kind.isToken])]
      · rw [bare_branch (by simp [isSpelled]), propertyPatterns, propertyPatterns, ih,
          patternAs?_bareChildren .value (by decide) children htidy.2,
          childAs?_bareChildren .key (by decide) htidy.2]
        cases hfound : childAs? .key children with
        | none => rfl
        | some key => simp [propertyKey_bare_of_childAs? htidy.2 (by decide) rfl hfound]
      · rw [bare_branch (by simp [isSpelled]), propertyPatterns, propertyPatterns, ih,
          firstPattern?_bareChildren children htidy.2]

end

/-! ### Statements -/

theorem functionParams_bareChildren (h : TidyChildren parent children) :
    functionParams (bareChildren children) = functionParams children := by
  rw [functionParams, functionParams, formalParams_bareChildren children h,
    patternAs?_bareChildren .parameter (by decide) children h]

theorem initializer?_bareChildren (h : TidyChildren parent children) :
    initializer? (bareChildren children) = initializer? children := by
  have hkind (kind : Kind) (htrivia : kind.isTrivia) : (kind == .variableDeclarator) = false := by
    cases kind <;> first | rfl | contradiction
  rw [initializer?, find?_bareChildren hkind, initializer?]
  cases hfound : children.find? fun child => child.2.kind == .variableDeclarator with
  | none => rfl
  | some child =>
      obtain ⟨r, declarator⟩ := child
      have htidy := (tidyChildren_iff.mp h _ (List.mem_of_find?_eq_some hfound)).1
      have hdeclarator : declarator.kind = .variableDeclarator := by
        simpa using List.find?_some hfound
      cases declarator with
      | leaf kind text => rfl
      | branch kind children =>
          simp only [Option.map_some]
          obtain rfl : kind = .variableDeclarator := hdeclarator
          rw [bare_branch (by simp [isSpelled])]
          exact exprAs?_bareChildren .value (by decide) children htidy.2

theorem toStatement_bare (h : node.Tidy) : node.bare.toStatement = node.toStatement := by
  cases node with
  | leaf kind text => rfl
  | branch kind children =>
      by_cases hspelled : isSpelled kind children
      · rw [bare_of_isSpelled hspelled]
      · rw [bare_branch hspelled]
        simp only [toStatement, kind_branch, children_branch, functionParams_bareChildren h.2,
          initializer?_bareChildren h.2, firstExpr?_bareChildren children h.2]

theorem firstStatement?_bare {program : Node} (h : program.Tidy) :
    program.bare.firstStatement? = program.firstStatement? := by
  cases program with
  | leaf kind text => rfl
  | branch kind children =>
      rw [bare]
      split
      · rfl
      · have hfirst (kind : Kind) (htrivia : kind.isTrivia) :
            (kind.isPart && !isPreamble kind) = false := by
          rw [isPart_of_isTrivia htrivia, Bool.false_and]
        simp only [firstStatement?, children_branch, find?_bareChildren hfirst, Option.map_map]
        refine Option.map_congr fun child hfound => ?_
        exact toStatement_bare (tidyChildren_iff.mp h.2 _ (List.mem_of_find?_eq_some hfound)).1

theorem firstStatement?_eq_of_bare_eq {program program' : Node} (h : program.Tidy)
    (h' : program'.Tidy) (hbare : program.bare = program'.bare) :
    program.firstStatement? = program'.firstStatement? := by
  rw [← firstStatement?_bare h, hbare, firstStatement?_bare h']

/-- All children are blanks, comments, empty statements or a hash-bang line. -/
def AreIdle (children : Children) : Prop :=
  ∀ child ∈ children, child.2.kind.isTrivia ∨ isPreamble child.2.kind

theorem firstStatement?_of_areIdle (h : AreIdle children) :
    firstStatement? (.branch .program children) = none := by
  rw [firstStatement?, children_branch, Option.map_eq_none_iff, List.find?_eq_none]
  intro child hchild
  rcases h child hchild with htrivia | hpreamble
  · simp [isPart_of_isTrivia htrivia]
  · simp [hpreamble]

theorem firstStatement?_append (front rest : Children) :
    firstStatement? (.branch .program (front ++ rest)) =
      (firstStatement? (.branch .program front)).or (firstStatement? (.branch .program rest)) := by
  simp only [firstStatement?, children_branch, List.find?_append]
  cases front.find? fun child => child.2.kind.isPart && !isPreamble child.2.kind <;> rfl

end Node

/-- Comments and what stands around the first statement do not count. Programs have the same first
statement if they are the same without blanks and comments, whatever tidy trees they are; so sources
have the same statement if their trees are. A program keeps its first statement when blanks,
comments, empty statements and a hash-bang line are added to it anywhere, or when anything is added
behind that statement. -/
theorem statement_of_surroundings :
    (∀ {program program' : Node}, program.Tidy → program'.Tidy → program.bare = program'.bare →
        program.firstStatement? = program'.firstStatement?) ∧
      (∀ {source source' : String} {program program' : Node},
        Node.ofSource? source = some program → Node.ofSource? source' = some program' →
        program.bare = program'.bare → statement source = statement source') ∧
      ∀ {front added rest : Node.Children},
        Node.AreIdle added ∨ (Node.firstStatement? (.branch .program front)).isSome →
        Node.firstStatement? (.branch .program (front ++ added ++ rest)) =
          Node.firstStatement? (.branch .program (front ++ rest)) := by
  refine ⟨Node.firstStatement?_eq_of_bare_eq, ?_, ?_⟩
  · intro source source' program program' h h' hbare
    rw [statement_of_ofSource? h, statement_of_ofSource? h',
      Node.firstStatement?_eq_of_bare_eq (Node.tidy_of_ofSource? h) (Node.tidy_of_ofSource? h')
        hbare]
  · intro front added rest h
    simp only [Node.firstStatement?_append]
    rcases h with hidle | hfront
    · rw [Node.firstStatement?_of_areIdle hidle, Option.or_none]
    · rw [Option.or_of_isSome hfront, Option.or_of_isSome hfront]

/-- Comments between the tokens of a default with a hole; a comment and an empty statement behind a
hash-bang line; and a statement behind a function. -/
theorem statement_of_surroundings_commented :
    statement "function /* a */ f(a /* b */ = [1, /* c */, 2]) \x7b\x7d" =
        statement "function f(a = [1,, 2]) \x7b\x7d" ∧
      Node.firstStatement? (.branch .program
          ([(.plain, .leaf .hashBangLine "#!/bin/ts")] ++
            [(.plain, .leaf .comment "// c"), (.plain, .branch .emptyStatement [])] ++
            [(.plain, .branch .functionDeclaration [])])) = some (.function []) ∧
      Node.firstStatement? (.branch .program
          ([(.plain, .branch .functionDeclaration [])] ++
            [(.plain, .branch .debuggerStatement [])] ++ [])) = some (.function []) := by
  obtain ⟨-, hbare, hadded⟩ := statement_of_surroundings
  have hidle : Node.AreIdle
      [(.plain, .leaf .comment "// c"), (.plain, .branch .emptyStatement [])] :=
    List.forall_mem_cons.mpr ⟨.inl rfl, List.forall_mem_singleton.mpr (.inr rfl)⟩
  refine ⟨?_, (hadded (.inl hidle)).trans rfl, (hadded (.inr rfl)).trans rfl⟩
  have htrees : ((Node.ofSource? "function /* a */ f(a /* b */ = [1, /* c */, 2]) \x7b\x7d").map
        Node.bare).isSome ∧
      (Node.ofSource? "function /* a */ f(a /* b */ = [1, /* c */, 2]) \x7b\x7d").map Node.bare =
        (Node.ofSource? "function f(a = [1,, 2]) \x7b\x7d").map Node.bare := by
    decide +kernel
  obtain ⟨tree, htree⟩ := Option.isSome_iff_exists.mp htrees.1
  obtain ⟨program, hprogram, rfl⟩ := Option.map_eq_some_iff.mp htree
  obtain ⟨program', hprogram', hsame⟩ := Option.map_eq_some_iff.mp (htrees.2.symm.trans htree)
  exact hbare hprogram hprogram' hsame.symm

end SnippetBridge.TypeScript
