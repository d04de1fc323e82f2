import ContentClasses.CommandLine.Run
import ContentClasses.Proofs.CommandLine.Arguments
import ContentClasses.Proofs.Generation.Calls
import ContentClasses.Proofs.Output.Directory
import ContentClasses.Proofs.Settings.Reload

/-! A call that is to write nothing changes no file, and one that fails before it writes classes has
made directories at most, those on the path of the output directory. -/

namespace ContentClasses

namespace CommandLine

/-- Whether a failure is that a class could not be written. -/
def Failure.IsWriting : Failure → Prop
  | .generation (.emit _ _) => True
  | _ => False

variable {arguments : List String} {environment : List (String × String)} {options : Options}
  {files : FileSystem} {settings : Settings}

/-- Generation that fails before it writes classes has made directories at most, those on the path
of the output directory. -/
theorem generate_gains {failure : Failure}
    (failed : (generate options settings files).1.failure = some failure)
    (earlier : ¬ failure.IsWriting) :
    files.GainsDirectories (generate options settings files).2
      (files.LiesOn settings.output.directory) := by
  have gained := OutputDirectory.prepare_gains files settings.output.directory
  -- The directory comes first, and the exits before the run leave the files as it has left them.
  unfold generate at failed ⊢
  dsimp only at failed ⊢
  split at failed
  · rename_i reached refused
    simpa [refused] using gained
  · rename_i output prepared ready
    rw [ready] at gained
    split at failed
    · exact gained
    · rename_i schema _
      -- Only writing could change more, so the run has left the files as they were prepared.
      split at failed
      · rename_i error space ran
        cases failed
        have same := CodegenConfig.run_error ran fun _ _ writing => earlier (by
          rw [writing]
          trivial)
        simpa [ran, same] using gained
      · cases failed

/-- Something other than a directory at the path of the output directory is refused before the
schema is looked at, whether or not classes are to be written. -/
theorem output_refused (options : Options)
    (occupied : files.exists? settings.output.directory = true)
    (other : files.isDirectory settings.output.directory = false) :
    let report : Report :=
      { failure := some (.generation (.output settings.output.directory .notDirectory)) }
    rehearse options settings files = report ∧
      generate options settings files = (report, files) := by
  -- Both kinds of run look at the directory before anything else.
  have refused : OutputDirectory.check files settings.output.directory = .error .notDirectory := by
    simp [OutputDirectory.check, occupied, other]
  unfold rehearse generate OutputDirectory.prepare
  rw [refused]
  exact ⟨rfl, rfl⟩

/-- The text about an output path at which something else stands. -/
theorem refusal_message (path : String) :
    "Error: " ++ (Failure.generation (.output path .notDirectory)).message ++ "\n" =
      "Error: Invalid output location " ++ path ++ ": exists and is not a directory\n" := by
  -- The text of the fault ends in what is wrong with the place.
  have text : (Failure.generation (.output path .notDirectory)).message =
      "Invalid output location " ++ path ++ ": " ++ "exists and is not a directory" := rfl
  rw [text, ← String.toList_inj]
  simp only [String.toList_append, List.append_assoc]
  rfl

/-- The files after a call whose arguments are understood are those after what it performs. -/
theorem call_files [Host] (read : readArguments arguments = .ok options) :
    (call arguments environment files).files = (perform options environment files).2 := by
  simp only [call, read]
  split <;> simp_all

/-- Options that ask to write nothing, or to print the settings only, change no file. -/
theorem perform_files [Host] (still : options.dryRun = true ∨ options.printConfig = true) :
    (perform options environment files).2 = files := by
  -- Loading the settings reads files only, and both options keep the run from generating.
  unfold perform
  split
  · rfl
  · rcases still with dry | print
    · split
      · rfl
      · simp
    · simp [print]

/-- A call that is to write nothing leaves the files as they are, and so does one whose arguments
are not understood. One that fails before it writes classes gains directories at most, and only on
the path of the output directory. Something other than a directory at that path is refused, whether
or not classes are to be written and whatever the schema is. -/
theorem call_effects [Host] (arguments : List String) (environment : List (String × String))
    (files : FileSystem) :
    ("--dry-run" ∈ arguments ∨ "--print-config" ∈ arguments →
      (call arguments environment files).files = files) ∧
    (∀ interruption, readArguments arguments = .error interruption →
      (call arguments environment files).files = files) ∧
    ∀ options, readArguments arguments = .ok options →
      (∀ failure, (perform options environment files).1.failure = some failure →
        ¬ failure.IsWriting →
        files.GainsDirectories (call arguments environment files).files fun place =>
          ∃ loaded, loadSettings files environment options.config = .ok loaded ∧
            files.LiesOn (options.onto loaded).output.directory place) ∧
      ∀ loaded, loadSettings files environment options.config = .ok loaded →
        "--print-config" ∉ arguments →
        let path := (options.onto loaded).output.directory
        files.exists? path = true → files.isDirectory path = false →
        call arguments environment files =
          { exitCode := 1,
            stderr := "Error: Invalid output location " ++ path ++
              ": exists and is not a directory\n",
            files } := by
  -- Arguments that are not understood lead to a report and to nothing else.
  have refused (interruption : Interruption)
      (read : readArguments arguments = .error interruption) :
      (call arguments environment files).files = files := by
    cases interruption <;> simp [call, read]
  refine ⟨fun still => ?_, refused, fun options read => ⟨fun failure failed earlier => ?_, ?_⟩⟩
  · -- The flags are either among the options, or they have not been understood.
    cases read : readArguments arguments with
    | error interruption => exact refused interruption read
    | ok options =>
      obtain ⟨dry, print, _⟩ := readArguments_flags read
      rw [call_files read]
      exact perform_files (still.imp dry.mpr print.mpr)
  · -- Only generating can change files, and then it is generating that has failed.
    rw [call_files read]
    unfold perform at failed ⊢
    split
    · exact .refl files _
    · rename_i loaded found
      simp only [found] at failed
      split
      · exact .refl files _
      · split
        · exact .refl files _
        · rename_i printing writing
          simp only [printing, writing] at failed
          exact (generate_gains failed earlier).mono fun place on => ⟨loaded, found, on⟩
  · intro loaded found printing path occupied other
    have silent : options.printConfig = false := by
      simpa using mt (readArguments_flags read).2.1.mp printing
    obtain ⟨rehearsed, generated⟩ := output_refused options occupied other
    -- Both kinds of run end with the same report.
    have performed : perform options environment files =
        ({ failure := some (.generation (.output path .notDirectory)) }, files) := by
      unfold perform
      rw [found]
      dsimp only
      rw [silent]
      cases options.dryRun
      · exact generated
      · exact congrArg (·, files) rehearsed
    rw [call, read]
    dsimp only
    rw [performed]
    dsimp only
    rw [refusal_message]

/-- A file in place of the output directory is refused and kept, and a call without schema makes the
output directory and nothing else. -/
theorem call_effects_occupied :
    let files : FileSystem := .workplace [("out", "text")]
    (call ["--dry-run", "--output", "new"] [] files).files = files ∧
      call ["--output", "out"] [] files =
        { exitCode := 1,
          stderr := "Error: Invalid output location out: exists and is not a directory\n",
          files } ∧
      (∃ failure, (perform { output := some "new" } [] files).1.failure = some failure ∧
        ¬ failure.IsWriting) ∧
      files.GainsDirectories (call ["--output", "new"] [] files).files fun place =>
        ∃ loaded, loadSettings files [] none = .ok loaded ∧
          files.LiesOn (({ output := some "new" } : Options).onto loaded).output.directory
            place := by
  intro files
  have loaded : loadSettings files [] none = .ok {} := by decide +kernel
  have failed : (perform { output := some "new" } [] files).1.failure = some .noSchema := by
    decide +kernel
  -- Without a schema the run stops after the output directory was made.
  refine ⟨(call_effects _ _ files).1 (.inl (by decide)), ?_,
    ⟨_, failed, fun writing => writing⟩, ?_⟩
  · exact ((call_effects ["--output", "out"] [] files).2.2 { output := some "out" } (by decide)).2
      {} loaded (by decide) (by decide) (by decide)
  · exact ((call_effects ["--output", "new"] [] files).2.2 { output := some "new" } (by decide)).1
      _ failed fun writing => writing

end CommandLine

end ContentClasses
