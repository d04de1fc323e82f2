import ContentClasses.Generation.Run
import ContentClasses.Proofs.Model.Findings

/-! What a generation run has done once it is known to have succeeded. -/

namespace ContentClasses

variable {σ : Type} {emitter : Emitter σ} {config : CodegenConfig} {types : List ContentType}

/-- Writing a list of classes succeeds if the first one is written and the others are written after
it. -/
theorem Emitter.writeEach_cons_ok {state final : σ} {spec : ClassSpec} {rest : List ClassSpec}
    {paths : List String} (written : emitter.writeEach state (spec :: rest) = (.ok paths, final)) :
    ∃ path reached others, emitter.write state spec = (.ok path, reached) ∧
      emitter.writeEach reached rest = (.ok others, final) ∧ paths = path :: others := by
  -- Both the first write and the others answer an error in the remaining cases.
  simp only [writeEach] at written
  split at written
  · cases written
  · rename_i path reached first
    split at written
    · rename_i others last later
      cases written
      exact ⟨path, reached, others, first, later, rfl⟩
    · cases written

/-- A run that succeeds has found no errors and has written the classes of its batch. -/
theorem CodegenConfig.run_ok {state final : σ} {summary : RunSummary}
    (finished : config.run (.ok types) emitter state = (.ok summary, final)) :
    (config.generate types).diagnostics.hasErrors = false ∧
      emitter.writeAll state (config.generate types).specs = (.ok summary.written, final) ∧
      summary.specs = (config.generate types).specs := by
  -- The gate and a failed write are the two ways to another answer.
  simp only [run] at finished
  split at finished
  · cases finished
  · rename_i clean
    split at finished
    · rename_i written last done
      cases finished
      exact ⟨by simpa using clean, done, rfl⟩
    · cases finished

/-- Where malformed codenames are errors, a batch without errors has none. -/
theorem CodegenConfig.isSnakeCase_of_clean
    (strict : config.diagnostics.malformedIdentifier = .error)
    (clean : (config.generate types).diagnostics.hasErrors = false) {type : ContentType}
    (member : type ∈ types) : isSnakeCase type.codename = true := by
  -- Otherwise the finding about the codename is collected, and it is an error.
  refine Decidable.byContradiction fun malformed => ?_
  have found : (⟨.malformedIdentifier, type.codename, none,
      "content type codename is not lower-snake-case"⟩ : Finding) ∈
        config.naming.findings type := by
    simp [Naming.findings, Naming.codenameFindings, malformed]
  have collected : (⟨⟨.malformedIdentifier, type.codename, none,
      "content type codename is not lower-snake-case"⟩, .error⟩ : Diagnostic) ∈
        (config.generate types).diagnostics.items := by
    rw [generate_items]
    exact List.mem_filterMap.mpr ⟨_, Naming.mem_batchFindings member found,
      by simp [Finding.graded?, Levels.of, strict, Level.severity?]⟩
  -- An error in the batch would contradict what is given.
  have graded : (config.generate types).diagnostics.hasErrors = true :=
    List.any_eq_true.mpr ⟨_, collected, by simp [Diagnostic.isError]⟩
  rw [clean] at graded
  cases graded

end ContentClasses
