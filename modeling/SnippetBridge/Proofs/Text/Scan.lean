import SnippetBridge.Text.Scan

/-!
What is known about the text that a scan has taken.
-/

namespace SnippetBridge.Text.Scan

variable {α β : Type} {p : Char → Bool} {cs rest : List Char}

theorem bind_eq_some_iff {scan : Scan α} {next : α → Scan β} {result : β × List Char} :
    (scan >>= next) cs = some result ↔
      ∃ a more, scan cs = some (a, more) ∧ next a more = some result := by
  simp [bind, StateT.bind, Option.bind_eq_some_iff]

theorem pure_eq_some_iff {a : α} {result : α × List Char} :
    (pure a : Scan α) cs = some result ↔ result = (a, cs) := by
  change some (a, cs) = some result ↔ result = (a, cs)
  rw [Option.some.injEq, eq_comm]

theorem orElse_eq_some_iff {first second : Scan α} {result : α × List Char} :
    (first <|> second) cs = some result ↔
      first cs = some result ∨ first cs = none ∧ second cs = some result := by
  simp only [HOrElse.hOrElse, OrElse.orElse, StateT.orElse, Alternative.orElse]
  cases first cs <;> simp

theorem one_eq_some_iff {c : Char} : one p cs = some (c, rest) ↔ cs = c :: rest ∧ p c := by
  cases cs with
  | nil => simp [one]
  | cons d cs =>
      simp only [one]
      split <;> grind

theorem exists_of_run1 {text : List Char} (h : run1 p cs = some (text, rest)) :
    ∃ c more, text = c :: more ∧ p c := by
  simp only [run1, bind_eq_some_iff, pure_eq_some_iff] at h
  obtain ⟨c, _, hone, more, _, -, htext⟩ := h
  obtain ⟨rfl, -⟩ := Prod.mk.inj htext
  exact ⟨c, more, rfl, (one_eq_some_iff.mp hone).2⟩

theorem times_append {digits : List Char} (h : ∀ c ∈ digits, p c) (more : List Char) :
    times p digits.length (digits ++ more) = some (digits, more) := by
  induction digits with
  | nil => rfl
  | cons c digits ih =>
      obtain ⟨hc, hdigits⟩ := List.forall_mem_cons.mp h
      simp only [List.length_cons, times, bind_eq_some_iff, pure_eq_some_iff]
      exact ⟨c, _, one_eq_some_iff.mpr ⟨rfl, hc⟩, digits, more, ih hdigits, rfl⟩

/-- What a scan gives, it gives each time that it is repeated. -/
theorem forall_of_repeated {scan : Scan α} {q : α → Prop}
    (h : ∀ {cs a rest}, scan cs = some (a, rest) → q a) (fuel : List Char) {found : List α}
    (hfound : repeated scan fuel cs = some (found, rest)) : ∀ a ∈ found, q a := by
  induction fuel generalizing cs found rest with
  | nil =>
      obtain ⟨rfl, -⟩ := Prod.mk.inj (pure_eq_some_iff.mp hfound)
      simp
  | cons _ fuel ih =>
      simp only [repeated, bind_eq_some_iff] at hfound
      obtain ⟨next, more, hnext, hfound⟩ := hfound
      cases next with
      | none =>
          obtain ⟨rfl, -⟩ := Prod.mk.inj (pure_eq_some_iff.mp hfound)
          simp
      | some a =>
          simp only [bind_eq_some_iff, pure_eq_some_iff] at hfound
          obtain ⟨others, _, hothers, hfound⟩ := hfound
          obtain ⟨rfl, -⟩ := Prod.mk.inj hfound
          have hscan : scan cs = some (a, more) := by
            simp only [option] at hnext
            split at hnext <;> simp_all
          exact List.forall_mem_cons.mpr ⟨h hscan, ih hothers⟩

end SnippetBridge.Text.Scan
