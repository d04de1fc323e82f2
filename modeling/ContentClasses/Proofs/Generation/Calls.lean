import ContentClasses.Generation.Run
import ContentClasses.Proofs.Steps

/-! A generation run makes no call to its emitter before its findings are known to be no errors, and
no call after the first failed write. -/

namespace ContentClasses

/-- One call to an emitter, with what it answered to a write. -/
inductive EmitterCall where
  | announce (specs : List ClassSpec)
  | write (spec : ClassSpec) (answer : Except IoCause String)

variable {σ : Type}

namespace Emitter

/-- Calls lead an emitter from one state to another, and each write is answered as it answers it. -/
inductive Receives (emitter : Emitter σ) : σ → List EmitterCall → σ → Prop where
  /-- Without a call the emitter stays in its state. -/
  | nothing (state : σ) : Receives emitter state [] state
  | announce {state final : σ} {specs : List ClassSpec} {calls : List EmitterCall}
      (later : Receives emitter (emitter.announce state specs) calls final) :
      Receives emitter state (.announce specs :: calls) final
  | write {state reached final : σ} {spec : ClassSpec} {answer : Except IoCause String}
      {calls : List EmitterCall} (answered : emitter.write state spec = (answer, reached))
      (later : Receives emitter reached calls final) :
      Receives emitter state (.write spec answer :: calls) final

/-- The emitter that beside its state keeps the calls it has received, in order. -/
def recorded (emitter : Emitter σ) : Emitter (σ × List EmitterCall) where
  announce := fun (state, calls) specs =>
    (emitter.announce state specs, calls ++ [.announce specs])
  write := fun (state, calls) spec =>
    ((emitter.write state spec).1, (emitter.write state spec).2,
      calls ++ [.write spec (emitter.write state spec).1])

end Emitter

/-- The calls that write classes to given paths, one for each class in order. -/
def writesOf (specs : List ClassSpec) (paths : List String) : List EmitterCall :=
  List.zipWith (fun spec path => .write spec (.ok path)) specs paths

/-- What writing a list of classes answers, beside the calls that it makes. -/
inductive WriteOutcome :
    List ClassSpec → Except GenerationError (List String) → List EmitterCall → Prop where
  /-- Every class is written, and the paths are answered in the order of the classes. -/
  | complete (specs : List ClassSpec) (paths : List String) (each : paths.length = specs.length) :
      WriteOutcome specs (.ok paths) (writesOf specs paths)
  /-- The classes before the first failure are written, and those after it are not tried. -/
  | stopped (before : List ClassSpec) (paths : List String) (spec : ClassSpec) (cause : IoCause)
      (after : List ClassSpec) (each : paths.length = before.length) :
      WriteOutcome (before ++ spec :: after) (.error (.emit spec.name cause))
        (writesOf before paths ++ [.write spec (.error cause)])

/-- What a generation run answers, beside the calls that it makes to its emitter. -/
inductive RunOutcome (config : CodegenConfig) :
    Except GenerationError (List ContentType) → Except GenerationError RunSummary →
      List EmitterCall → Prop where
  /-- Types that cannot be fetched end the run with the error of fetching them. -/
  | unavailable (error : GenerationError) : RunOutcome config (.error error) (.error error) []
  /-- Errors among the findings end the run with their displays, in order of report. -/
  | blocked {types : List ContentType}
      (found : ∃ item ∈ (config.generate types).diagnostics.items, item.severity = .error) :
      RunOutcome config (.ok types)
        (.error (.diagnostics ("; ".intercalate
          (((config.generate types).diagnostics.items.filter (·.severity = .error)).map
            Diagnostic.display)))) []
  /-- Otherwise the whole batch is announced once, and its classes are written. -/
  | emitted {types : List ContentType} {answer : Except GenerationError (List String)}
      {calls : List EmitterCall}
      (clean : ∀ item ∈ (config.generate types).diagnostics.items, item.severity ≠ .error)
      (outcome : WriteOutcome (config.generate types).specs answer calls) :
      RunOutcome config (.ok types)
        (answer.map fun written =>
          ⟨(config.generate types).specs, written, (config.generate types).diagnostics⟩)
        (.announce (config.generate types).specs :: calls)

/-- A first class that is written precedes whatever happens to the others. -/
theorem WriteOutcome.cons {specs : List ClassSpec} {answer : Except GenerationError (List String)}
    {calls : List EmitterCall} (outcome : WriteOutcome specs answer calls) (spec : ClassSpec)
    (path : String) :
    WriteOutcome (spec :: specs) (answer.map (path :: ·)) (.write spec (.ok path) :: calls) := by
  -- The class joins those that were written, whether or not a later one fails.
  cases outcome with
  | complete specs paths each => exact complete (spec :: specs) (path :: paths) (by simp [each])
  | stopped before paths failing cause after each =>
    exact stopped (spec :: before) (path :: paths) failing cause after (by simp [each])

/-- Writing classes one by one makes one call for each up to the first failure. -/
theorem Emitter.writeEach_outcome (emitter : Emitter σ) (specs : List ClassSpec) (state : σ)
    (log : List EmitterCall) :
    ∃ answer final calls,
      emitter.writeEach state specs = (answer, final) ∧
      emitter.recorded.writeEach (state, log) specs = (answer, final, log ++ calls) ∧
      emitter.Receives state calls final ∧ WriteOutcome specs answer calls := by
  -- A failed write ends the recursion, and a successful one continues it in the reached state.
  induction specs generalizing state log with
  -- Without classes no call is made.
  | nil =>
    exact ⟨.ok [], state, [], rfl, by simp [writeEach], .nothing state,
      .complete [] [] rfl⟩
  | cons spec rest ih =>
    cases written : emitter.write state spec with
    | mk answer reached =>
      cases answer with
      -- The failure is the last call.
      | error cause =>
        refine ⟨.error (.emit spec.name cause), reached, [.write spec (.error cause)], ?_, ?_,
          .write written (.nothing reached), .stopped [] [] spec cause rest rfl⟩
        · simp [writeEach, written]
        · simp [writeEach, recorded, written]
      -- The call for this class comes before those for the others.
      | ok path =>
        obtain ⟨answer, final, calls, plain, logged, received, outcome⟩ :=
          ih reached (log ++ [.write spec (.ok path)])
        refine ⟨answer.map (path :: ·), final, .write spec (.ok path) :: calls, ?_, ?_,
          .write written received, outcome.cons spec path⟩
        · cases answer <;> simp [writeEach, written, plain]
        · have here : emitter.recorded.write (state, log) spec =
              (.ok path, reached, log ++ [.write spec (.ok path)]) := by
            simp [recorded, written]
          cases answer <;> simp [writeEach, here, logged]

/-- Writing announces the whole batch before the first class. -/
theorem Emitter.writeAll_outcome (emitter : Emitter σ) (specs : List ClassSpec) (state : σ)
    (log : List EmitterCall) :
    ∃ answer final calls,
      emitter.writeAll state specs = (answer, final) ∧
      emitter.recorded.writeAll (state, log) specs =
        (answer, final, log ++ .announce specs :: calls) ∧
      emitter.Receives state (.announce specs :: calls) final ∧
      WriteOutcome specs answer calls := by
  -- The announcement changes the state before the first write, and is logged before it.
  obtain ⟨answer, final, calls, plain, logged, received, outcome⟩ :=
    emitter.writeEach_outcome specs (emitter.announce state specs) (log ++ [.announce specs])
  refine ⟨answer, final, calls, plain, ?_, .announce received, outcome⟩
  rw [List.append_assoc] at logged
  exact logged

/-- Writing classes fails with the class that cannot be written. -/
theorem Emitter.writeAll_error {emitter : Emitter σ} {state final : σ} {specs : List ClassSpec}
    {error : GenerationError}
    (failed : emitter.writeAll state specs = (.error error, final)) :
    ∃ className cause, error = .emit className cause := by
  -- A batch that is written to its end has no error to answer.
  obtain ⟨answer, _, calls, plain, _, _, outcome⟩ := emitter.writeAll_outcome specs state []
  rw [failed, Prod.mk.injEq] at plain
  obtain ⟨rfl, rfl⟩ := plain
  cases outcome with
  | stopped before paths spec cause after each => exact ⟨spec.name, cause, rfl⟩

/-- A run that fails otherwise than by a class that cannot be written has changed nothing. -/
theorem CodegenConfig.run_error {config : CodegenConfig} {emitter : Emitter σ}
    {fetched : Except GenerationError (List ContentType)} {state final : σ}
    {error : GenerationError} (failed : config.run fetched emitter state = (.error error, final))
    (earlier : ∀ className cause, error ≠ .emit className cause) : final = state := by
  -- The emitter is told nothing before the types are fetched and the findings are no errors.
  unfold run at failed
  dsimp only at failed
  split at failed
  · -- The types were not fetched.
    cases failed
    rfl
  · split at failed
    · -- A finding was graded as an error.
      cases failed
      rfl
    · split at failed
      · -- The run has succeeded.
        cases failed
      · rename_i writing
        cases failed
        obtain ⟨className, cause, same⟩ := Emitter.writeAll_error writing
        exact absurd same (earlier className cause)

/-- A collector has errors exactly if one of its items is an error. -/
theorem Diagnostics.hasErrors_iff (diagnostics : Diagnostics) :
    diagnostics.hasErrors = true ↔ ∃ item ∈ diagnostics.items, item.severity = .error := by
  simp [hasErrors, Diagnostic.isError]

/-- A run ends by one of its four exits, and the calls that its emitter receives on the way are
exactly those of that exit, whatever the emitter does with them. -/
theorem run_outcome (config : CodegenConfig)
    (fetched : Except GenerationError (List ContentType)) (emitter : Emitter σ) (state : σ) :
    ∃ answer final calls,
      config.run fetched emitter state = (answer, final) ∧
      config.run fetched emitter.recorded (state, []) = (answer, final, calls) ∧
      emitter.Receives state calls final ∧ RunOutcome config fetched answer calls := by
  cases fetched with
  -- Without types there is nothing to build.
  | error error => exact ⟨.error error, state, [], rfl, rfl, .nothing state, .unavailable error⟩
  | ok types =>
    by_cases graded : (config.generate types).diagnostics.hasErrors = true
    · -- The gate closes before the emitter is told anything.
      refine ⟨_, state, [], ?_, ?_, .nothing state,
        .blocked ((Diagnostics.hasErrors_iff _).mp graded)⟩
      · simp only [CodegenConfig.run, graded, if_true]
        rfl
      · simp only [CodegenConfig.run, graded, if_true]
        rfl
    · -- An open gate means that no finding is graded as an error, so the whole batch is written.
      have clean : ∀ item ∈ (config.generate types).diagnostics.items, item.severity ≠ .error :=
        fun item member severe =>
          graded ((Diagnostics.hasErrors_iff _).mpr ⟨item, member, severe⟩)
      obtain ⟨answer, final, calls, plain, logged, received, outcome⟩ :=
        emitter.writeAll_outcome (config.generate types).specs state []
      refine ⟨_, final, _, ?_, ?_, received, .emitted clean outcome⟩
      · simp only [CodegenConfig.run, graded, plain]
        cases answer <;> rfl
      · simp only [CodegenConfig.run, graded, logged]
        cases answer <;> rfl

end ContentClasses
