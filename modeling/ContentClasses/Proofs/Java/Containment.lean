import ContentClasses.Proofs.Files.Confinement
import ContentClasses.Proofs.Java.Emitter

/-! A successful run writes below the directory of the package, as far as the class names are
confined paths. -/

namespace ContentClasses.Java.Target

variable {target : Target} {space final : Workspace} {spec : ClassSpec}

/-- Writing classes answers the paths of their files, wherever these lie. -/
theorem writeEach_paths {specs : List ClassSpec} {paths : List String}
    (written : target.emitter.writeEach space specs = (.ok paths, final)) :
    paths = specs.map target.filePath :=
  (writeEach_grows written).1

/-- The file for a class whose name has no slash is a confined path. -/
theorem confined_sourceFile {name : String} (plain : '/' ∉ name.toList) :
    Path.Confined (name ++ ".java") := by
  -- The name is the only step, and it goes down.
  obtain ⟨relative, single⟩ := steps_sourceFile plain
  refine ⟨relative, ?_⟩
  rw [single, Path.staysBelow_name (isDots_sourceFile name)]
  rfl

/-- The file for a class lies below the directory of its package if its name is a confined path. -/
theorem placeOf_filePath_confined (confined : Path.Confined (spec.name ++ ".java"))
    (files : FileSystem) :
    ∃ between name, files.placeOf (target.filePath spec) =
      files.placeOf (target.output.packageDirectory target.package) ++ between ++ [name] := by
  -- The last step carries the ending of the file, whatever slashes the class name has.
  obtain ⟨front, opening, last⟩ : ∃ front opening,
      Path.steps (spec.name ++ ".java") = front ++ [opening ++ ".java"] :=
    Path.steps_append_name spec.name (by decide) (by decide)
  obtain ⟨between, placed⟩ := confined.placeOf_join last (isDots_sourceFile opening) files
    (target.output.packageDirectory target.package)
  exact ⟨between, opening ++ ".java", placed⟩

/-- A class whose name is no confined path leaves the directory of its package for some target. -/
theorem exists_placeOf_filePath_outside (free : ¬ Path.Confined (spec.name ++ ".java")) :
    ∃ (other : Target) (files : FileSystem),
      ¬ files.placeOf (other.output.packageDirectory other.package) <+:
        files.placeOf (other.filePath spec) := by
  -- The unnamed package has the output directory itself.
  rw [Path.confined_iff] at free
  simp only [not_forall] at free
  obtain ⟨files, directory, outside⟩ := free
  refine ⟨{ output := ⟨directory⟩, package := "" }, files, ?_⟩
  have root : OutputDirectory.packageDirectory ⟨directory⟩ "" = directory := by
    simp [OutputDirectory.packageDirectory, OutputDirectory.packageSegments, List.splitOn_nil]
  rwa [filePath, root]

/-- The files of a list of classes lie where they belong, as far as the class names allow it. -/
structure Contained (target : Target) (types : List ContentType) (specs : List ClassSpec)
    (paths : List String) : Prop where
  /-- The directory of the package lies below the output directory. -/
  package_below : ∀ files : FileSystem,
    files.placeOf (target.output.packageDirectory target.package) =
      files.placeOf target.output.root ++ OutputDirectory.packageSegments target.package
  /-- The paths are those of the classes, in order. -/
  paths_eq : paths = specs.map target.filePath
  /-- A path lies below the directory of the package if it continues that by a confined one. -/
  below : ∀ spec ∈ specs, Path.Confined (spec.name ++ ".java") → ∀ files : FileSystem,
    ∃ between name, files.placeOf (target.filePath spec) =
      files.placeOf (target.output.packageDirectory target.package) ++ between ++ [name]
  /-- Any other class name is written outside of the directory of its package by some target. -/
  leaves : ∀ spec ∈ specs, ¬ Path.Confined (spec.name ++ ".java") →
    ∃ (other : Target) (files : FileSystem),
      ¬ files.placeOf (other.output.packageDirectory other.package) <+:
        files.placeOf (other.filePath spec)
  /-- All class names are confined if no codename has a slash. -/
  confined : (∀ type ∈ types, '/' ∉ type.codename.toList) →
    ∀ spec ∈ specs, Path.Confined (spec.name ++ ".java")

/-- A run that succeeds under whatever levels has written every class with a confined name below the
directory of the package, and codenames without slash lead to such names only. -/
theorem run_contained {config : CodegenConfig} {types : List ContentType} {summary : RunSummary}
    (slashless : ∀ segment ∈ OutputDirectory.packageSegments target.package,
      '/' ∉ segment.toList)
    (finished : config.run (.ok types) target.emitter space = (.ok summary, final)) :
    target.Contained types summary.specs summary.written := by
  obtain ⟨_, written, specs⟩ := CodegenConfig.run_ok finished
  -- What was written are the classes of the batch, each at its path.
  rw [CodegenConfig.generate_specs] at written specs
  refine ⟨fun files => OutputDirectory.placeOf_packageDirectory files target.output slashless,
    ?_, ?_, ?_, ?_⟩
  · rw [specs]
    exact writeEach_paths written
  · exact fun spec _ confined files => placeOf_filePath_confined confined files
  · exact fun spec _ free => exists_placeOf_filePath_outside free
  · -- Every class name is a variant of a type name, which has no slash of its own.
    intro plain spec member
    rw [specs] at member
    obtain ⟨type, among, taken, name⟩ := Naming.generateAll_name_of_mem member
    have absent : '/' ∉ (config.naming.typeName type.codename).toList :=
      config.naming.not_mem_typeName (by decide) (plain type among)
    rw [name]
    exact confined_sourceFile (not_mem_firstFree (by decide) absent taken)

/-- A codename with a slash that is only warned about leads to a file in a directory of its own, and
that still lies below the directory of the package. -/
theorem run_contained_subdirectory :
    let target : Target := { output := ⟨"out"⟩, package := "a.b" }
    let types : List ContentType := [⟨"drafts/new", none, [⟨"title", "text", none⟩]⟩]
    ∃ summary final,
      ({} : CodegenConfig).run (.ok types) target.emitter ⟨{}, []⟩ = (.ok summary, final) ∧
      summary.written = ["out/a/b/Drafts/new.java"] ∧
      (∀ segment ∈ OutputDirectory.packageSegments target.package, '/' ∉ segment.toList) ∧
      target.Contained types summary.specs summary.written := by
  intro target types
  -- Only the paths of the run are evaluated, which tells that it succeeds.
  have written : (({} : CodegenConfig).run (.ok types) target.emitter ⟨{}, []⟩).1.map (·.written) =
      .ok ["out/a/b/Drafts/new.java"] := by
    decide +kernel
  -- The package has no slash, so its directory is where it is expected.
  have slashless : ∀ segment ∈ OutputDirectory.packageSegments target.package,
      '/' ∉ segment.toList := by
    decide +kernel
  cases finished : ({} : CodegenConfig).run (.ok types) target.emitter ⟨{}, []⟩ with
  | mk answer final =>
    rw [finished] at written
    cases answer with
    | error error => cases written
    | ok summary =>
      exact ⟨summary, final, rfl, Except.ok.inj written, slashless,
        run_contained slashless finished⟩

/-- With the levels that are set by default, a codename that climbs leads a successful run to write
beside the directory of the package. -/
theorem run_leaves_package :
    let target : Target := { output := ⟨"out"⟩, package := "com.example.models" }
    ∃ prepared summary final,
      OutputDirectory.prepare {} "out" = (.ok target.output, prepared) ∧
      ({} : CodegenConfig).run (.ok [⟨"../evil", none, []⟩]) target.emitter ⟨prepared, []⟩ =
        (.ok summary, final) ∧
      ∃ path ∈ summary.written, prepared.placeOf path = ["out", "com", "example", "evil.java"] ∧
        ¬ prepared.placeOf (target.output.packageDirectory target.package) <+:
          prepared.placeOf path := by
  intro target
  -- The directory is made in an empty tree.
  let prepared := (OutputDirectory.prepare {} "out").2
  have accepted : OutputDirectory.prepare {} "out" = (.ok target.output, prepared) :=
    Prod.ext (by decide +kernel) rfl
  -- Only the paths are evaluated, and the class is written beside the package.
  have written : (({} : CodegenConfig).run (.ok [⟨"../evil", none, []⟩]) target.emitter
      ⟨prepared, []⟩).1.map (·.written) = .ok ["out/com/example/models/../evil.java"] := by
    decide +kernel
  cases finished : ({} : CodegenConfig).run (.ok [⟨"../evil", none, []⟩]) target.emitter
      ⟨prepared, []⟩ with
  | mk answer final =>
    rw [finished] at written
    cases answer with
    | error error => cases written
    | ok summary =>
      have answered : summary.written = ["out/com/example/models/../evil.java"] :=
        Except.ok.inj written
      exact ⟨prepared, summary, final, accepted, finished, "out/com/example/models/../evil.java",
        by simp [answered], by decide +kernel, by decide +kernel⟩

end ContentClasses.Java.Target
