import ContentClasses.Output.Directory
import ContentClasses.Proofs.Files.Directories

/-! Preparing the output directory only makes directories, it can be repeated, and the directory of
a package lies as many places below it as the package has segments. -/

namespace ContentClasses.OutputDirectory

/-- Preparing a directory is gaining directories on its path, even if it fails. -/
theorem prepare_gains (files : FileSystem) (path : String) :
    files.GainsDirectories (prepare files path).2 (files.LiesOn path) := by
  -- Only a path at which nothing stands is made, with the directories above it.
  have gained := files.createDirectories_gains path
  unfold prepare
  split
  · exact .refl files _
  · split
    · exact .refl files _
    · split
      · rename_i made done
        simpa [done] using gained
      · rename_i reached failed
        simpa [failed] using gained

/-- Preparing a directory makes the file system grow without any text, even if it fails. -/
theorem prepare_grows (files : FileSystem) (path : String) :
    files.GrowsTo (prepare files path).2 [] :=
  (prepare_gains files path).grows

/-- Where a directory stands, or no path is given, there is nothing to prepare. -/
theorem prepare_of_isDirectory {files : FileSystem} {path : String}
    (there : path = "" ∨ files.isDirectory path = true) :
    prepare files path = (.ok ⟨path⟩, files) := by
  have made := FileSystem.createDirectories_of_isDirectory there
  have passed : check files path = .ok () := by
    rcases there with rfl | directory
    · rfl
    · simp [check, directory]
  -- Whether or not something stands at the path, nothing is made.
  simp only [prepare, passed, made]
  split <;> rfl

/-- A directory that was prepared had passed the check, and it is there. -/
theorem prepare_ok {files after : FileSystem} {path : String} {output : OutputDirectory}
    (prepared : prepare files path = (.ok output, after)) :
    check files path = .ok () ∧ output = ⟨path⟩ ∧
      (path = "" ∨ after.isDirectory path = true) := by
  -- The check comes first, and a directory is only made where nothing stands yet.
  unfold prepare at prepared
  split at prepared
  · cases prepared
  · rename_i passed
    refine ⟨passed, ?_⟩
    split at prepared
    · -- Nothing but a directory passes the check where something stands.
      rename_i present
      cases prepared
      exact ⟨rfl, .inr (by simpa [check, present] using passed)⟩
    · split at prepared
      · rename_i made done
        cases prepared
        exact ⟨rfl, FileSystem.isDirectory_of_createDirectories done⟩
      · cases prepared

/-- Preparing a directory makes directories on its path and changes nothing else, even if it fails.
Where it succeeds the path has passed the check, a directory stands there, and preparing it again
changes nothing. A directory that is there is kept as it is, and anything else is refused and kept.
-/
theorem prepare_outcome (files : FileSystem) (path : String) :
    files.GainsDirectories (prepare files path).2 (files.LiesOn path) ∧
    (∀ output after, prepare files path = (.ok output, after) →
      check files path = .ok () ∧ output.root = path ∧
      (path ≠ "" → after.isDirectory path = true) ∧
      prepare after path = (.ok output, after)) ∧
    (files.isDirectory path = true → prepare files path = (.ok ⟨path⟩, files)) ∧
    (files.exists? path = true → files.isDirectory path = false →
      check files path = .error .notDirectory ∧
        prepare files path = (.error .notDirectory, files)) := by
  refine ⟨prepare_gains files path, fun output after prepared => ?_,
    fun directory => prepare_of_isDirectory (.inr directory), fun occupied other => ?_⟩
  · -- A directory that is ready is found as such by every later call.
    obtain ⟨passed, rfl, there⟩ := prepare_ok prepared
    exact ⟨passed, rfl, there.resolve_left, prepare_of_isDirectory there⟩
  · -- A thing that is there and is no directory does not pass the check.
    have refused : check files path = .error .notDirectory := by
      simp [check, occupied, other]
    exact ⟨refused, by simp [prepare, refused]⟩

/-- A path that leads up again is prepared with all that it names, one that leads through a file
makes nothing, and neither is the file itself taken for a directory. -/
theorem prepare_outcome_nested :
    let files : FileSystem :=
      ⟨⟨[(["work"], .directory), (["work", "notes"], .text "kept")]⟩, ["work"]⟩
    let made : FileSystem := { files with
      tree := (files.tree.put ["work", "a"] .directory).put ["work", "b"] .directory }
    (prepare files "a/../b" = (.ok ⟨"a/../b"⟩, made) ∧
      made.isDirectory "a/../b" = true ∧ prepare made "a/../b" = (.ok ⟨"a/../b"⟩, made)) ∧
    (prepare files "notes/b" = (.error (.cannotCreate .notDirectory), files) ∧
      files.GainsDirectories files (files.LiesOn "notes/b")) ∧
    prepare files "notes" = (.error .notDirectory, files) := by
  intro files made
  have prepared : prepare files "a/../b" = (.ok ⟨"a/../b"⟩, made) := rfl
  have blocked : prepare files "notes/b" = (.error (.cannotCreate .notDirectory), files) := rfl
  -- The general outcome is read off at the three paths.
  obtain ⟨-, -, there, again⟩ := (prepare_outcome files "a/../b").2.1 _ _ prepared
  have kept := (prepare_outcome files "notes/b").1
  rw [blocked] at kept
  have refused := (prepare_outcome files "notes").2.2.2 (by decide +kernel) (by decide +kernel)
  exact ⟨⟨prepared, there (by decide), again⟩, ⟨blocked, kept⟩, refused.2⟩

/-- A segment of a package is not empty and has no dot. -/
theorem mem_packageSegments {package segment : String}
    (member : segment ∈ packageSegments package) : segment ≠ "" ∧ '.' ∉ segment.toList := by
  -- The pieces between the dots are filled and have none themselves.
  obtain ⟨piece, cut, rfl⟩ := List.mem_map.mp member
  obtain ⟨filled, plain⟩ := mem_pieces cut
  refine ⟨fun empty => filled ?_, fun dot => ?_⟩
  · simpa using congrArg String.toList empty
  · exact (plain '.' (by simpa using dot)).2 rfl

/-- Segments without slash lead down from a directory by one place each. -/
theorem placeOf_foldl_join (files : FileSystem) {segments : List String} (root : String)
    (plain : ∀ segment ∈ segments,
      segment ≠ "" ∧ '.' ∉ segment.toList ∧ '/' ∉ segment.toList) :
    files.placeOf (segments.foldl Path.join root) = files.placeOf root ++ segments := by
  induction segments generalizing root with
  | nil => simp
  | cons segment rest ih =>
    obtain ⟨present, dotless, slashless⟩ := plain segment (by simp)
    -- A segment is relative, and no step that leads elsewhere, so the directory of the first one
    -- stands at one more place.
    have down : files.placeOf (Path.join root segment) = files.placeOf root ++ [segment] := by
      rw [files.placeOf_join root (Path.isAbsolute_name slashless),
        Path.steps_name present slashless, placeAfter_cons, stepFrom_name (isDots_dotless dotless)]
      rfl
    rw [List.foldl_cons, ih _ fun other member => plain other (List.mem_cons_of_mem _ member), down,
      List.append_assoc, List.singleton_append]

/-- The directory of a package whose segments have no slash lies below the output directory. -/
theorem placeOf_packageDirectory (files : FileSystem) (output : OutputDirectory) {package : String}
    (slashless : ∀ segment ∈ packageSegments package, '/' ∉ segment.toList) :
    files.placeOf (output.packageDirectory package) =
      files.placeOf output.root ++ packageSegments package :=
  placeOf_foldl_join files output.root fun segment member =>
    ⟨(mem_packageSegments member).1, (mem_packageSegments member).2, slashless segment member⟩

end ContentClasses.OutputDirectory
