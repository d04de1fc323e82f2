import ContentClasses.Java.Emitter
import ContentClasses.Proofs.Files.Path
import ContentClasses.Proofs.Generation.Success
import ContentClasses.Proofs.Model.ClassNames
import ContentClasses.Proofs.Naming.Identifier
import ContentClasses.Proofs.Output.Directory

/-! A successful run leaves every class in a file of its own, and every other file as it was. -/

namespace ContentClasses.Java.Target

variable {target : Target} {space next final : Workspace} {spec : ClassSpec}

/-- The emitter writes a class by writing its file. -/
theorem emitter_write : target.emitter.write = target.writeFile := by
  unfold emitter
  rfl

/-- Writing a class ends with its source at its path, and changes no other file. -/
theorem writeFile_ok {path : String} (written : target.writeFile space spec = (.ok path, next)) :
    path = target.filePath spec ∧ next.siblings = space.siblings ∧
      space.files.GrowsTo next.files [space.files.placeOf path] ∧
      next.files.readText path = .ok (target.source space.siblings spec) := by
  -- The directories above the file are made first, and then the text is written among them.
  delta writeFile at written
  simp only at written
  split at written
  · cases written
  · rename_i reached made
    have above : space.files.GrowsTo reached [] := by
      simpa [made] using space.files.createDirectoriesAbove_grows (target.filePath spec)
    split at written
    · cases written
    · -- What stands at the path is written last, after directories without texts.
      rename_i after text
      cases written
      have grown := FileSystem.writeText_grows text
      rw [above.placeOf] at grown
      exact ⟨rfl, rfl, (above.mono (by simp)).trans grown, FileSystem.readText_writeText text⟩

/-- Writing classes answers the paths of their files, and changes no other file. -/
theorem writeEach_grows {specs : List ClassSpec} {paths : List String}
    (written : target.emitter.writeEach space specs = (.ok paths, final)) :
    paths = specs.map target.filePath ∧ final.siblings = space.siblings ∧
      space.files.GrowsTo final.files (paths.map space.files.placeOf) := by
  induction specs generalizing space paths with
  | nil =>
    cases written
    exact ⟨rfl, rfl, .refl _ _⟩
  | cons first rest ih =>
    obtain ⟨path, reached, others, head, later, rfl⟩ := Emitter.writeEach_cons_ok written
    rw [emitter_write] at head
    obtain ⟨rfl, siblings, grown, _⟩ := writeFile_ok head
    -- The others grow on from the first, and their paths lead to the same places as before.
    have places : ∀ path, reached.files.placeOf path = space.files.placeOf path := grown.placeOf
    obtain ⟨rfl, same, further⟩ := ih later
    rw [funext places] at further
    exact ⟨rfl, same.trans siblings, (grown.mono (by simp)).trans (further.mono (by simp))⟩

/-- Writing classes to different places ends with the source of each at its path, and changes no
other file. -/
theorem writeEach_ok {specs : List ClassSpec} {paths : List String}
    (written : target.emitter.writeEach space specs = (.ok paths, final))
    (apart : ((specs.map target.filePath).map space.files.placeOf).Nodup) :
    paths = specs.map target.filePath ∧ final.siblings = space.siblings ∧
      space.files.GrowsTo final.files (paths.map space.files.placeOf) ∧
      ∀ spec ∈ specs, final.files.readText (target.filePath spec) =
        .ok (target.source space.siblings spec) := by
  obtain ⟨same, siblings, grown⟩ := writeEach_grows written
  refine ⟨same, siblings, grown, ?_⟩
  clear same siblings grown
  -- A file that was written first is at none of the places written later.
  induction specs generalizing space paths with
  | nil => simp
  | cons first rest ih =>
    -- The first class is written, and the others are written over what it leaves.
    obtain ⟨path, reached, others, head, later, rfl⟩ := Emitter.writeEach_cons_ok written
    rw [emitter_write] at head
    obtain ⟨rfl, siblings, grown, read⟩ := writeFile_ok head
    obtain ⟨alone, apart⟩ := List.nodup_cons.mp apart
    have places : ∀ path, reached.files.placeOf path = space.files.placeOf path := grown.placeOf
    obtain ⟨rfl, _, further⟩ := writeEach_grows later
    rw [funext places] at further
    intro spec member
    rcases List.mem_cons.mp member with rfl | member
    · -- The first file is kept, because the others are elsewhere.
      refine FileSystem.readText_grows read further ?_
      rw [places]
      exact alone
    · -- The others were read in the state that they were written in.
      rw [ih later (by rw [funext places]; exact apart) spec member, siblings]

/-- No step that ends as a source file does leads to a directory of its own. -/
theorem isDots_sourceFile (opening : String) : FileSystem.isDots (opening ++ ".java") = false := by
  -- The ending alone is longer than two dots.
  have long : 5 ≤ (opening ++ ".java").toList.length := by simp
  have other : ∀ text : String, text.toList.length < 5 → opening ++ ".java" ≠ text := by
    intro text short same
    rw [same] at long
    omega
  exact isDots_eq_false_iff.mpr ⟨other "." (by decide), other ".." (by decide)⟩

/-- The file for a class whose name has no slash is a single step. -/
theorem steps_sourceFile {name : String} (plain : '/' ∉ name.toList) :
    Path.isAbsolute (name ++ ".java") = false ∧
      Path.steps (name ++ ".java") = [name ++ ".java"] := by
  -- The ending has no slash either, and it keeps the name from being empty.
  have slashless : '/' ∉ (name ++ ".java").toList := by simp [plain]
  have present : name ++ ".java" ≠ "" := fun empty => by
    simpa using congrArg String.toList empty
  exact ⟨Path.isAbsolute_name slashless, Path.steps_name present slashless⟩

/-- The file for a class with an alphanumeric name lies directly in the directory of its package. -/
theorem placeOf_filePath (files : FileSystem) (given : IsAlphanumeric spec.name) :
    files.placeOf (target.filePath spec) =
      files.placeOf (target.output.packageDirectory target.package) ++ [spec.name ++ ".java"] := by
  -- The name of the file is relative, so it continues the steps to the directory by one.
  have plain : '/' ∉ spec.name.toList := fun slash => absurd (given.2 '/' slash) (by decide)
  obtain ⟨relative, single⟩ := steps_sourceFile plain
  rw [filePath, files.placeOf_join _ relative, single, placeAfter_cons,
    stepFrom_name (isDots_sourceFile spec.name)]
  rfl

/-- Classes with different alphanumeric names go to different places. -/
theorem nodup_places (files : FileSystem) {specs : List ClassSpec}
    (distinct : (specs.map (·.name)).Nodup) (given : ∀ spec ∈ specs, IsAlphanumeric spec.name) :
    ((specs.map target.filePath).map files.placeOf).Nodup := by
  -- Within the directory of the package the last step decides, and it ends in the class name.
  have placed : (specs.map target.filePath).map files.placeOf =
      (specs.map (·.name)).map fun name =>
        files.placeOf (target.output.packageDirectory target.package) ++ [name ++ ".java"] := by
    rw [List.map_map, List.map_map]
    exact List.map_congr_left fun spec member => placeOf_filePath files (given spec member)
  rw [placed]
  refine distinct.map fun left right same => ?_
  simpa using same

/-- A list of classes stands in files of its own, and the file system is otherwise as before. -/
structure Delivered (target : Target) (before after : FileSystem) (specs : List ClassSpec)
    (paths : List String) : Prop where
  /-- Every class name is made of ASCII letters and digits. -/
  names : ∀ spec ∈ specs, IsAlphanumeric spec.name
  /-- The paths name one file for each class, in order, in the directory of the package. -/
  paths_eq : paths = specs.map fun spec =>
    Path.join (target.output.packageDirectory target.package) (spec.name ++ ".java")
  /-- Each file lies directly in that directory. -/
  placed : ∀ spec ∈ specs, after.placeOf (target.filePath spec) =
    after.placeOf (target.output.packageDirectory target.package) ++ [spec.name ++ ".java"]
  /-- No two paths lead to the same place. -/
  apart : (paths.map after.placeOf).Nodup
  /-- Each path holds exactly the source of its class among all class names. -/
  contents : ∀ spec ∈ specs, after.readText (target.filePath spec) =
    .ok (renderClass spec target.package target.profile (specs.map (·.name)))
  /-- Every file at another place is still there with the same content. -/
  kept : ∀ place entry, before.tree.get? place = some entry → entry ≠ .directory →
    place ∉ paths.map after.placeOf → after.tree.get? place = some entry

/-- A run with malformed codenames as errors that succeeds after its output directory was prepared
delivers the classes of its batch. -/
theorem run_delivered {config : CodegenConfig} {initial prepared : FileSystem} {path : String}
    {types : List ContentType} {siblings : List String} {summary : RunSummary}
    (strict : config.diagnostics.malformedIdentifier = .error)
    (accepted : OutputDirectory.prepare initial path = (.ok target.output, prepared))
    (finished : config.run (.ok types) target.emitter ⟨prepared, siblings⟩ = (.ok summary, final)) :
    summary.specs = config.naming.generateAll types ∧
      target.Delivered initial final.files summary.specs summary.written := by
  -- A run that succeeds has passed the gate and has written the batch.
  obtain ⟨clean, written, specs⟩ := CodegenConfig.run_ok finished
  rw [CodegenConfig.generate_specs] at written specs
  rw [specs]
  -- The gate leaves only snake-case codenames, whose class names are alphanumeric.
  have given : ∀ spec ∈ config.naming.generateAll types, IsAlphanumeric spec.name := by
    intro spec member
    obtain ⟨type, among, taken, name⟩ := Naming.generateAll_name_of_mem member
    have snake := CodegenConfig.isSnakeCase_of_clean strict clean among
    exact name ▸ (config.naming.typeName_isAlphanumeric snake).firstFree taken
  have distinct := config.naming.generateAll_names_nodup types
  have written : target.emitter.writeEach
      ⟨prepared, (config.naming.generateAll types).map (·.name)⟩
      (config.naming.generateAll types) = (.ok summary.written, final) := written
  obtain ⟨paths, _, grown, reads⟩ := writeEach_ok written (nodup_places prepared distinct given)
  -- Preparing the directory and writing the files are growth at the written places only.
  have prepare : initial.GrowsTo prepared [] := by
    simpa [accepted] using OutputDirectory.prepare_grows initial path
  have places : ∀ path, final.files.placeOf path = prepared.placeOf path := grown.placeOf
  refine ⟨rfl, given, paths, fun spec member => placeOf_filePath _ (given spec member), ?_, reads,
    fun place entry present _ other => ?_⟩
  · -- The places stay apart when they are looked up in the final state.
    rw [paths]
    exact nodup_places final.files distinct given
  · -- An entry at none of the places is kept by both kinds of growth.
    rw [funext places] at other
    exact grown.tree.get?_eq (prepare.tree.get?_eq present (by simp)) other

/-- Two content types with one class name are delivered beside a file that was there before. -/
theorem run_delivered_shared_name :
    let initial : FileSystem := ⟨⟨[(["notes"], .text "kept")]⟩, []⟩
    let config : CodegenConfig :=
      ⟨{}, { malformedIdentifier := .error, classNameCollision := .warn }⟩
    let types : List ContentType :=
      [⟨"post_1", none, [⟨"title", "text", none⟩]⟩, ⟨"post1", none, []⟩]
    let target : Target := { output := ⟨"out"⟩, package := "a.b" }
    ∃ prepared summary final,
      OutputDirectory.prepare initial "out" = (.ok target.output, prepared) ∧
      config.run (.ok types) target.emitter ⟨prepared, []⟩ = (.ok summary, final) ∧
      summary.written = ["out/a/b/Post1.java", "out/a/b/Post12.java"] ∧
      summary.specs = config.naming.generateAll types ∧
      target.Delivered initial final.files summary.specs summary.written := by
  intro initial config types target
  let prepared := (OutputDirectory.prepare initial "out").2
  have accepted : OutputDirectory.prepare initial "out" = (.ok target.output, prepared) :=
    Prod.ext (by decide +kernel) rfl
  -- Only the paths of the run are evaluated, which tells that it succeeds.
  have written : (config.run (.ok types) target.emitter ⟨prepared, []⟩).1.map (·.written) =
      .ok ["out/a/b/Post1.java", "out/a/b/Post12.java"] := by
    decide +kernel
  cases finished : config.run (.ok types) target.emitter ⟨prepared, []⟩ with
  | mk answer final =>
    rw [finished] at written
    cases answer with
    | error error => cases written
    | ok summary =>
      exact ⟨prepared, summary, final, accepted, finished, Except.ok.inj written,
        run_delivered rfl accepted finished⟩

end ContentClasses.Java.Target
