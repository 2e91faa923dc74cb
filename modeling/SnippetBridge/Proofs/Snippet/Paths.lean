import SnippetBridge.Proofs.Snippet.Authored
import SnippetBridge.Proofs.Snippet.References

/-!
Paths and chains of members. A chain is known by the names of its links, and a path that is made of
names without dots is split into these names again. So a path spells one chain, whatever segments it
has, and a chain is spelled by its path if no name of it has a dot.
-/

namespace SnippetBridge

namespace DottedPath

theorem dot_not_mem_split (cs : List Char) :
    ∀ segment ∈ (split cs).1 :: (split cs).2, '.' ∉ segment := by
  induction cs with
  | nil => simp [split]
  | cons c cs ih =>
      obtain ⟨hfirst, hrest⟩ := List.forall_mem_cons.mp ih
      rw [split]
      dsimp only
      split
      · exact List.forall_mem_cons.mpr ⟨List.not_mem_nil, ih⟩
      · next hc =>
          refine List.forall_mem_cons.mpr ⟨?_, hrest⟩
          rw [List.mem_cons, not_or]
          exact ⟨Ne.symm hc, hfirst⟩

/-- Joining names by dots and splitting at the dots are inverse to each other, if the names have no
dots themselves. -/
theorem eq_segments_iff {names : List String} (hne : names ≠ []) (path : String) :
    names = (segments path).map String.ofList ↔
      ".".intercalate names = path ∧ ∀ name ∈ names, '.' ∉ name.toList := by
  constructor
  · rintro rfl
    refine ⟨intercalate_segments path, ?_⟩
    rw [List.forall_mem_map]
    intro segment hsegment
    rw [String.toList_ofList]
    exact dot_not_mem_split path.toList segment hsegment
  · rintro ⟨rfl, hdots⟩
    have hparts : ∀ part ∈ names.map String.toList, '.' ∉ part := List.forall_mem_map.mpr hdots
    have hpath : (".".intercalate names).toList = ['.'].intercalate (names.map String.toList) :=
      String.toList_intercalate
    rw [segments_eq_splitOn, hpath, List.splitOn_intercalate '.' hparts (by simpa using hne),
      List.map_map]
    simp [Function.comp_def]

end DottedPath

namespace Expr

/-- No name in a chain of members has a dot in it. -/
def Undotted : Expr → Prop
  | .identifier name => '.' ∉ name.toList
  | .member target property => target.Undotted ∧ ∀ name ∈ property, '.' ∉ name.toList
  | _ => True

theorem undotted_iff_of_names? {expr : Expr} {names : List String} (h : expr.names? = some names) :
    expr.Undotted ↔ ∀ name ∈ names, '.' ∉ name.toList := by
  fun_induction names? expr generalizing names with
  | case1 name =>
      cases h
      simp [Undotted]
  | case2 target property ih =>
      obtain ⟨front, hfront, rfl⟩ := Option.map_eq_some_iff.mp h
      rw [Undotted, ih hfront, List.forall_mem_append, List.forall_mem_singleton]
      simp
  | case3 => cases h

theorem names?_eq_singleton_iff {expr : Expr} {name : String} :
    expr.names? = some [name] ↔ expr = .identifier name := by
  constructor
  · intro h
    fun_induction names? expr with
    | case1 other =>
        cases h
        rfl
    | case2 target property _ =>
        obtain ⟨front, hfront, hnames⟩ := Option.map_eq_some_iff.mp h
        have hlength := List.length_pos_of_ne_nil (names?_ne_nil hfront)
        have hsame := congrArg List.length hnames
        simp only [List.length_append, List.length_singleton] at hsame
        omega
    | case3 => cases h
  · rintro rfl
    rfl

theorem names?_eq_concat_iff {expr : Expr} {front : List String} {property : String}
    (hne : front ≠ []) :
    expr.names? = some (front ++ [property]) ↔
      ∃ target, expr = .member target (some property) ∧ target.names? = some front := by
  constructor
  · intro h
    fun_induction names? expr with
    | case1 name =>
        have hsame := congrArg List.length (Option.some.inj h)
        have hlength := List.length_pos_of_ne_nil hne
        simp only [List.length_append, List.length_singleton] at hsame
        omega
    | case2 target other _ =>
        obtain ⟨others, hothers, hnames⟩ := Option.map_eq_some_iff.mp h
        obtain ⟨rfl, hlast⟩ := List.append_inj' hnames rfl
        cases hlast
        exact ⟨target, rfl, hothers⟩
    | case3 => cases h
  · rintro ⟨target, rfl, htarget⟩
    rw [names?, htarget, Option.map_some]

/-- A chain is known by the names of its links, from the last one back to the root. -/
theorem names?_injective {expr other : Expr} {names : List String} (h : expr.names? = some names)
    (hother : other.names? = some names) : expr = other := by
  induction names using List.reverseRecOn generalizing expr other with
  | nil => exact absurd rfl (names?_ne_nil h)
  | append_singleton front property ih =>
      by_cases hfront : front = []
      · subst hfront
        rw [names?_eq_singleton_iff.mp h, names?_eq_singleton_iff.mp hother]
      · obtain ⟨target, rfl, htarget⟩ := (names?_eq_concat_iff hfront).mp h
        obtain ⟨target', rfl, htarget'⟩ := (names?_eq_concat_iff hfront).mp hother
        rw [ih htarget htarget']

theorem ofPath_eq_iff_names? {path : String} {expr : Expr} :
    ofPath path = expr ↔ expr.names? = some ((DottedPath.segments path).map String.ofList) := by
  constructor
  · rintro rfl
    exact names?_ofPath path
  · intro h
    exact names?_injective (names?_ofPath path) h

/-- A path spells a chain exactly if it is the path of the chain and no name of the chain has a
dot. -/
theorem ofPath_eq_iff {path : String} {expr : Expr} :
    ofPath path = expr ↔ expr.path? = some path ∧ expr.Undotted := by
  rw [ofPath_eq_iff_names?, path?_eq_map_names?]
  cases hnames : expr.names? with
  | none => simp
  | some names =>
      rw [Option.some.injEq, DottedPath.eq_segments_iff (names?_ne_nil hnames),
        undotted_iff_of_names? hnames, Option.map_some, Option.some.injEq]

/-- Every path is the path of the chain that it spells, also if segments of it are empty. In turn a
path spells a chain that it is the path of, unless a name of the chain has a dot in it, and no other
one. A path that is joined from two by a dot is accepted exactly if both of them are. -/
theorem path_split_join :
    (∀ path, (ofPath path).path? = some path) ∧
      (∀ path expr, ofPath path = expr ↔ expr.path? = some path ∧ expr.Undotted) ∧
      ∀ p q, (∃ v, Value.reference? (p ++ "." ++ q) = .ok v) ↔
        (∃ v, Value.reference? p = .ok v) ∧ ∃ v, Value.reference? q = .ok v := by
  refine ⟨fun path => (ofPath_eq_iff.mp rfl).1, fun path expr => ofPath_eq_iff, fun p q => ?_⟩
  simp only [Value.reference?_eq_ok_iff, exists_and_left, exists_eq, and_true,
    ← DottedPath.isWellFormed_iff, DottedPath.isWellFormed_append_dot, Bool.and_eq_true]

example : (Expr.ofPath "a..b.").path? = some "a..b." := by decide +kernel

end Expr

end SnippetBridge
