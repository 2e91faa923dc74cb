import SnippetBridge.Proofs.Command.Pipeline

/-!
No command meets a circular reference. The graph of a value has a node of its own for each array and
object, so it unfolds to the value again, whatever else is in the heap; and a graph that unfolds is
walked to the end. What is written then is the literal that follows the structure of the value.
-/

namespace SnippetBridge.Command

open Host

variable {α β : Type} {inputs : Inputs}

/-- If this fails, then not because a value has no literal. -/
def FailsEarly (result : Except Failure α) : Prop := ∀ error, result ≠ .error (.literal error)

theorem failsEarly_ok (a : α) : FailsEarly (.ok a) := by simp [FailsEarly]

theorem failsEarly_error {failure : Failure} (h : ∀ error, failure ≠ .literal error) :
    FailsEarly (.error failure : Except Failure α) := by simpa [FailsEarly] using h

theorem FailsEarly.bind {first : Except Failure α} {next : α → Except Failure β}
    (hfirst : FailsEarly first) (hnext : ∀ a, FailsEarly (next a)) :
    FailsEarly (first >>= next) := by
  intro error h
  cases first with
  | error failure =>
      cases h
      exact hfirst error rfl
  | ok a => exact hnext a error h

theorem Inputs.failsEarly_subject (inputs : Inputs) (file : String) :
    FailsEarly (inputs.subject file) := by
  unfold Inputs.subject
  split
  · exact failsEarly_ok _
  · exact failsEarly_error (by simp)

theorem failsEarly_declared (inputs : Inputs) (file : String) :
    FailsEarly (declared inputs file) := by
  refine (inputs.failsEarly_subject file).bind fun source => ?_
  split
  · exact failsEarly_ok _
  · exact failsEarly_error (by simp)
  · exact failsEarly_error (by simp)

theorem Format.failsEarly_options (inputs : Inputs) (format : Format) :
    FailsEarly (format.options inputs) := by
  unfold Format.options
  split
  · exact failsEarly_ok _
  · split
    · exact failsEarly_ok _
    · exact failsEarly_error (by simp)

/-- Once there are options, there is a literal. -/
theorem Format.failsEarly_literal (inputs : Inputs) (format : Format) (v : Value) :
    FailsEarly (format.literal inputs v) := by
  refine (format.failsEarly_options inputs).bind fun options => ?_
  rw [Rhai.renderValue_eq_ok]
  exact failsEarly_ok _

theorem failsEarly_run (inputs : Inputs) (command : Command) : FailsEarly (run inputs command) := by
  cases command with
  | extract file => exact (failsEarly_declared inputs file).bind fun v => failsEarly_ok _
  | bridge file format =>
      exact (failsEarly_declared inputs file).bind fun v => format.failsEarly_literal inputs v
  | render file format =>
      refine (inputs.failsEarly_subject file).bind fun text => ?_
      split
      · exact format.failsEarly_literal inputs _
      · exact failsEarly_error (by simp)

/-- A value always has a literal: as a graph, in a heap with any other nodes, it is rendered without
failure as what the recursion over its structure gives. So no command ever reports a circular
reference. -/
theorem never_circular :
    (∀ options v, Rhai.renderValue options v = .ok (Rhai.render options v)) ∧
      (∀ options v (heap : Heap),
        Rhai.renderGraph options (heap.ofTree (.ofValue v)).2 (heap.ofTree (.ofValue v)).1 =
          .ok (Rhai.render options v)) ∧
      ∀ inputs command error, run inputs command ≠ .error (.literal error) := by
  refine ⟨Rhai.renderValue_eq_ok, fun options v heap => ?_, failsEarly_run⟩
  exact Rhai.renderGraph_ofTree options heap (.ofValue v)

end SnippetBridge.Command
