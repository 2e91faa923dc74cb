import SnippetBridge.Command.Run
import SnippetBridge.Proofs.Json.Reading
import SnippetBridge.Proofs.Rhai.Recognized
import SnippetBridge.Proofs.Rhai.Sharing
import SnippetBridge.Proofs.Snippet.Declared
import SnippetBridge.Proofs.Value.Decidable

/-!
Two ways from a snippet to a literal: `bridge` goes there in one step, while `extract` writes a JSON
document that `render` reads. The document carries all that a literal shows, and the two ways differ
in one respect only: on the way through JSON, an object that spells a reference becomes one.
-/

namespace SnippetBridge

/-- The document that is written for a value, with the line end behind it, is read as what is left
of the value in JSON. -/
theorem Value.ofText_pretty {v : Value} (hv : v.WellFormed)
    (hdepth : v.toJson.depth ≤ Json.maxDepth) :
    Value.ofText (v.toJson.pretty ++ "\n") = .ok v.normal := by
  have hnewline : Json.Blank ['\n'] := Json.blank_cons (by simp) Json.blank_nil
  have hline : v.toJson.pretty ++ "\n" = String.ofList (Json.prettyText 0 v.toJson ++ ['\n']) := by
    rw [Json.pretty, String.ofList_append]
  -- The line end is a blank behind the document.
  rw [Value.ofText, hline,
    Json.ofText_of_spells (Json.spells_prettyText 0 v.toJson) hnewline hdepth]
  exact congrArg Except.ok (Value.ofJson_toJson v hv)

/-- What is read has the literal of the value, once the objects that spell references count as
references. -/
theorem Value.exists_read_pretty {v : Value} (hv : v.WellFormed)
    (hdepth : v.toJson.depth ≤ Json.maxDepth)
    (hreferences : v.EveryReference fun path => DottedPath.isWellFormed path) :
    ∃ read, Value.ofText (v.toJson.pretty ++ "\n") = .ok read ∧
      ∀ options, Rhai.render options read = Rhai.render options v.recognized :=
  ⟨v.normal, Value.ofText_pretty hv hdepth, fun options => Rhai.render_normal options hreferences⟩

namespace Command

variable {inputs : Inputs} {file source : String} {v : Value}

theorem declared_eq_ok (hsource : inputs.subject file = .ok source)
    (hdeclared : TypeScript.declared source = .ok (some v)) : declared inputs file = .ok v := by
  simp only [declared, hsource, bind, Except.bind, hdeclared]
  rfl

theorem run_extract (hdeclared : declared inputs file = .ok v) :
    run inputs (.extract file) = .ok v.toJson.pretty := by
  simp only [run, hdeclared]
  rfl

theorem literal_eq (inputs : Inputs) (format : Format) (v : Value) :
    format.literal inputs v =
      (format.options inputs).map fun options => Rhai.render options v := by
  simp only [Format.literal, Rhai.renderValue_eq_ok]
  cases format.options inputs <;> rfl

theorem run_bridge (hdeclared : declared inputs file = .ok v) (format : Format) :
    run inputs (.bridge file format) =
      (format.options inputs).map fun options => Rhai.render options v := by
  simp only [run, hdeclared, bind, Except.bind]
  exact literal_eq inputs format v

theorem run_render {text : String} (hsubject : inputs.subject file = .ok text)
    (hread : Value.ofText text = .ok v) (format : Format) :
    run inputs (.render file format) =
      (format.options inputs).map fun options => Rhai.render options v := by
  simp only [run, hsubject, bind, Except.bind, hread]
  exact literal_eq inputs format v

/-- A value that repeats no key is written as a document that is read as a value with the same
literal, once the objects that spell references count as references, if the document is not nested
too deep and the references are well formed. So extracting the value of a snippet and then rendering
the output gives what `bridge` gives, up to these objects; it gives the very same if there are
none. -/
theorem render_extract (hdepth : v.toJson.depth ≤ Json.maxDepth)
    (hreferences : v.EveryReference fun path => DottedPath.isWellFormed path) :
    (v.WellFormed → ∃ read, Value.ofText (v.toJson.pretty ++ "\n") = .ok read ∧
        ∀ options, Rhai.render options read = Rhai.render options v.recognized) ∧
      ∀ inputs file source, inputs.subject file = .ok source →
        TypeScript.declared source = .ok (some v) →
        ∃ line, run inputs (.extract file) = .ok line ∧
          (∃ read, Value.ofText (line ++ "\n") = .ok read ∧
            ∀ options, Rhai.render options read = Rhai.render options v.recognized) ∧
          (∀ format, run ⟨some (line ++ "\n"), inputs.file?⟩ (.render "-" format) =
            (format.options inputs).map fun options => Rhai.render options v.recognized) ∧
          (v.recognized = v → ∀ format,
            run ⟨some (line ++ "\n"), inputs.file?⟩ (.render "-" format) =
              run inputs (.bridge file format)) := by
  refine ⟨fun hv => Value.exists_read_pretty hv hdepth hreferences, ?_⟩
  intro inputs file source hsource hdeclared
  have hextracted := declared_eq_ok hsource hdeclared
  obtain ⟨read, hread, hrender⟩ :=
    Value.exists_read_pretty (TypeScript.wellFormed_declared hdeclared) hdepth hreferences
  have hpiped (format : Format) :
      run ⟨some (v.toJson.pretty ++ "\n"), inputs.file?⟩ (.render "-" format) =
        (format.options inputs).map fun options => Rhai.render options v.recognized := by
    rw [run_render rfl hread]
    simp only [hrender]
    rfl
  refine ⟨v.toJson.pretty, run_extract hextracted, ⟨read, hread, hrender⟩, hpiped, ?_⟩
  intro hsame format
  rw [hpiped, run_bridge hextracted, hsame]

/-- Standard input with a text, and no files. -/
def piped (text : String) : Inputs := ⟨some text, fun _ => none⟩

/-- An object that spells a reference, beside a reference. -/
def lookalike : String := "const x = \x7ba: [\x7b$ref: \"app.b\"\x7d, c.d]\x7d"

/-- What `lookalike` declares. -/
def lookalikeValue : Value :=
  .object [("a", .array [.object [("$ref", .string "app.b")], .reference "c.d"])]

/-- The object that spells a reference comes out as one; the reference stays what it is. -/
theorem render_extract_lookalike :
    ∃ line, run (piped lookalike) (.extract "-") = .ok line ∧
      ∀ format, run (piped (line ++ "\n")) (.render "-" format) =
        (format.options (piped lookalike)).map fun options =>
          Rhai.render options (.object [("a", .array [.reference "app.b", .reference "c.d"])]) := by
  have hsource : (piped lookalike).subject "-" = .ok lookalike := rfl
  have hdeclared : TypeScript.declared lookalike = .ok (some lookalikeValue) := by decide +kernel
  have hpath : DottedPath.isWellFormed "c.d" = true := by decide +kernel
  have hreferences : lookalikeValue.EveryReference fun path => DottedPath.isWellFormed path := by
    simp [lookalikeValue, Value.EveryReference, Value.EntriesEveryReference,
      Value.ItemsEveryReference, hpath]
  have hrecognized : lookalikeValue.recognized =
      .object [("a", .array [.reference "app.b", .reference "c.d"])] := by decide +kernel
  obtain ⟨line, hline, -, hpiped, -⟩ :=
    (render_extract (by decide +kernel) hreferences).2 _ _ _ hsource hdeclared
  rw [hrecognized] at hpiped
  exact ⟨line, hline, hpiped⟩

/-- The two ways can differ: at an object that spells a reference, and at a reference whose path is
not well formed, here for a combining mark in its first name. -/
theorem bridge_ne_render_extract :
    (run (piped "const x = \x7ba: \x7b$ref: \"app.b\"\x7d\x7d")
          (.bridge "-" ⟨none, false, none, none⟩) =
        .ok "#\x7b\n  a: #\x7b\n    $ref: \"app.b\"\n  \x7d\n\x7d;" ∧
      run (piped "const x = \x7ba: \x7b$ref: \"app.b\"\x7d\x7d") (.extract "-") =
        .ok "\x7b\n  \"a\": \x7b\n    \"$ref\": \"app.b\"\n  \x7d\n\x7d" ∧
      run (piped "\x7b\n  \"a\": \x7b\n    \"$ref\": \"app.b\"\n  \x7d\n\x7d\n")
          (.render "-" ⟨none, false, none, none⟩) =
        .ok "#\x7b\n  a: app.b\n\x7d;") ∧
    run (piped "const x = \x7ba: e\u0301.b\x7d") (.bridge "-" ⟨none, false, none, none⟩) =
        .ok "#\x7b\n  a: e\u0301.b\n\x7d;" ∧
      run (piped "const x = \x7ba: e\u0301.b\x7d") (.extract "-") =
        .ok "\x7b\n  \"a\": \x7b\n    \"$ref\": \"e\u0301.b\"\n  \x7d\n\x7d" ∧
      run (piped "\x7b\n  \"a\": \x7b\n    \"$ref\": \"e\u0301.b\"\n  \x7d\n\x7d\n")
          (.render "-" ⟨none, false, none, none⟩) =
        .ok "#\x7b\n  a: #\x7b\n    $ref: \"e\u0301.b\"\n  \x7d\n\x7d;" := by
  refine ⟨⟨?_, ?_, ?_⟩, ?_, ?_, ?_⟩
  all_goals decide +kernel

end Command

end SnippetBridge
