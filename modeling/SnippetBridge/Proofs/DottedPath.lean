import Mathlib.Data.List.Basic
import SnippetBridge.DottedPath

/-!
What well-formed paths are made of: one or more names with a dot between neighbours. A path starts
with a name, and it has no characters but those of names and dots; so it looks like no other literal
and holds no separator.
-/

namespace SnippetBridge.DottedPath

/-- A character of a text is a dot or belongs to one of the segments. -/
theorem mem_split {cs : List Char} {c : Char} (h : c ∈ cs) :
    c = '.' ∨ ∃ segment ∈ (split cs).1 :: (split cs).2, c ∈ segment := by
  induction cs with
  | nil => simp at h
  | cons d cs ih =>
      rw [split]
      dsimp only
      rcases List.mem_cons.mp h with rfl | hmem
      · by_cases hdot : c = '.'
        · exact .inl hdot
        · rw [if_neg hdot]
          exact .inr ⟨_, List.mem_cons_self, List.mem_cons_self⟩
      · refine (ih hmem).imp_right ?_
        rintro ⟨segment, hsegment, hc⟩
        split
        · exact ⟨segment, List.mem_cons_of_mem _ hsegment, hc⟩
        · rcases List.mem_cons.mp hsegment with rfl | hrest
          · exact ⟨_, List.mem_cons_self, List.mem_cons_of_mem d hc⟩
          · exact ⟨segment, List.mem_cons_of_mem _ hrest, hc⟩

theorem isNamePart_of_isNameStart {c : Char} (h : isNameStart c = true) : isNamePart c = true := by
  rw [isNamePart, h, Bool.true_or]

theorem isNamePart_of_isName {segment : List Char} (h : isName segment = true) {c : Char}
    (hc : c ∈ segment) : isNamePart c = true := by
  cases segment with
  | nil => simp at hc
  | cons d cs =>
      simp only [isName, Bool.and_eq_true, List.all_eq_true] at h
      rcases List.mem_cons.mp hc with rfl | hmem
      · exact isNamePart_of_isNameStart h.1
      · exact h.2 c hmem

/-- A well-formed path starts like a name and goes on with names and dots. -/
theorem toList_of_isWellFormed {path : String} (h : isWellFormed path = true) :
    ∃ c cs, path.toList = c :: cs ∧ isNameStart c = true ∧
      ∀ d ∈ path.toList, d = '.' ∨ isNamePart d = true := by
  simp only [isWellFormed, segments, List.all_eq_true] at h
  have hparts : ∀ d ∈ path.toList, d = '.' ∨ isNamePart d = true := by
    intro d hd
    refine (mem_split hd).imp_right ?_
    rintro ⟨segment, hsegment, hmem⟩
    exact isNamePart_of_isName (h segment hsegment) hmem
  have hfirst := h _ List.mem_cons_self
  generalize path.toList = cs at hfirst hparts
  cases cs with
  | nil => simp [split, isName] at hfirst
  | cons c cs =>
      refine ⟨c, cs, rfl, ?_, hparts⟩
      rw [split] at hfirst
      dsimp only at hfirst
      split at hfirst
      · simp [isName] at hfirst
      · simp only [isName, Bool.and_eq_true] at hfirst
        exact hfirst.1

/-- Among the characters below the letters, only the dollar sign starts a name. -/
theorem isNameStart_of_lt {c : Char} (h : c.toNat < 0x41) (hdollar : c ≠ '$') :
    isNameStart c = false := by
  have hranges : Text.alphabeticRanges = (0x41, 0x5a) :: Text.alphabeticRanges.tail := rfl
  have hletter : Text.isAlphabetic c = false := by
    rw [Text.isAlphabetic, hranges, Text.inRanges, if_pos h]
  have hunderscore : c ≠ '_' := by
    rintro rfl
    simp at h
  simp [isNameStart, hletter, hunderscore, hdollar]

/-! ### Names between dots -/

theorem split_eq_splitOn (cs : List Char) : (split cs).1 :: (split cs).2 = cs.splitOn '.' := by
  induction cs with
  | nil => rfl
  | cons c cs ih =>
      rw [split, List.splitOn_cons_eq_if_modifyHead, ← ih]
      dsimp only
      by_cases hdot : c = '.'
      · simp [hdot]
      · simp [hdot]

/-- A letter, an underscore or a dollar sign, and then any number of these and of digits. -/
def IsName (name : List Char) : Prop :=
  ∃ first rest, name = first :: rest ∧
    (Text.isAlphabetic first = true ∨ first = '_' ∨ first = '$') ∧
    ∀ c ∈ rest, Text.isAlphabetic c = true ∨ Text.isNumeric c = true ∨ c = '_' ∨ c = '$'

theorem isNameStart_iff {c : Char} :
    isNameStart c = true ↔ Text.isAlphabetic c = true ∨ c = '_' ∨ c = '$' := by
  simp [isNameStart, or_assoc]

theorem isNamePart_iff {c : Char} :
    isNamePart c = true ↔
      Text.isAlphabetic c = true ∨ Text.isNumeric c = true ∨ c = '_' ∨ c = '$' := by
  simp only [isNamePart, Bool.or_eq_true, isNameStart_iff]
  tauto

theorem isName_iff {name : List Char} : isName name = true ↔ IsName name := by
  cases name with
  | nil => simp [isName, IsName]
  | cons first rest =>
      simp only [isName, Bool.and_eq_true, List.all_eq_true, isNameStart_iff, isNamePart_iff,
        IsName, List.cons.injEq]
      constructor
      · rintro ⟨hfirst, hrest⟩
        exact ⟨first, rest, ⟨rfl, rfl⟩, hfirst, hrest⟩
      · rintro ⟨_, _, ⟨rfl, rfl⟩, hfirst, hrest⟩
        exact ⟨hfirst, hrest⟩

/-- One or more names, with a dot between neighbours. -/
def JoinsNames (path : String) : Prop :=
  ∃ names, names ≠ [] ∧ (∀ name ∈ names, IsName name) ∧ path.toList = ['.'].intercalate names

theorem dot_not_mem_of_isName {name : List Char} (h : isName name = true) : '.' ∉ name := by
  intro hdot
  have hpart := isNamePart_of_isName h hdot
  rw [show isNamePart '.' = false by decide +kernel] at hpart
  cases hpart

theorem isWellFormed_iff {path : String} : isWellFormed path = true ↔ JoinsNames path := by
  simp only [isWellFormed, segments, split_eq_splitOn, List.all_eq_true]
  constructor
  · intro h
    exact ⟨_, by simp, fun name hname => isName_iff.mp (h name hname),
      (List.intercalate_splitOn '.').symm⟩
  · rintro ⟨names, hnonempty, hnames, hpath⟩
    rw [hpath, List.splitOn_intercalate '.' _ hnonempty]
    · exact fun name hname => isName_iff.mpr (hnames name hname)
    · exact fun name hname => dot_not_mem_of_isName (isName_iff.mpr (hnames name hname))

theorem split_append_dot (cs ds : List Char) :
    split (cs ++ '.' :: ds) = ((split cs).1, (split cs).2 ++ (split ds).1 :: (split ds).2) := by
  induction cs with
  | nil => rfl
  | cons c cs ih =>
      rw [List.cons_append, split, split, ih]
      dsimp only
      split <;> rfl

/-- Paths can be joined by a dot: the whole is well formed exactly when both parts are. -/
theorem isWellFormed_append_dot (p q : String) :
    isWellFormed (p ++ "." ++ q) = (isWellFormed p && isWellFormed q) := by
  have hlist : (p ++ "." ++ q).toList = p.toList ++ '.' :: q.toList := by
    simp
  simp only [isWellFormed, segments, hlist, split_append_dot, ← List.cons_append, List.all_append]

theorem isWellFormed_intercalate {names : List String} (h : names ≠ []) :
    isWellFormed (".".intercalate names) = names.all isWellFormed := by
  match names with
  | [name] => simp
  | name :: next :: rest =>
      rw [String.intercalate_cons_cons, isWellFormed_append_dot, List.all_cons,
        isWellFormed_intercalate (List.cons_ne_nil next rest)]

end SnippetBridge.DottedPath
