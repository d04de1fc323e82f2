import ContentClasses.Proofs.Files.Operations

/-! Directories that were made are there for good, making them again changes nothing, and they lie
on the path that asks for them. -/

namespace ContentClasses

namespace FileSystem

variable {files reached after : FileSystem} {path content : String} {written : List Location}

/-- A directory stands at a path exactly if the steps of the path lead to one. -/
theorem isDirectory_iff :
    files.isDirectory path = true ↔ admitted path = .ok () ∧
      walk files.tree (files.startOf path) (Path.steps path) = .ok (files.placeOf path) ∧
      files.tree.isDirectory (files.placeOf path) = true := by
  -- A directory is found with or without a slash behind its path.
  simp only [isDirectory, entry?, Tree.isDirectory, decide_eq_true_eq]
  constructor
  · intro there
    cases led : files.locate path with
    -- A path that leads nowhere shows no directory.
    | error cause => simp [led] at there
    | ok found =>
      rcases found with ⟨place, entry⟩
      obtain ⟨allowed, walked, stands, _⟩ := locate_ok_iff.mp led
      have same : place = files.placeOf path := walk_place walked
      simp only [led, Option.some.injEq, decide_eq_true_eq] at there
      subst same there
      exact ⟨allowed, walked, stands⟩
  · rintro ⟨allowed, walked, stands⟩
    -- The slash may stand, because what is there is a directory.
    have led := locate_ok_iff.mpr ⟨allowed, walked, stands, fun _ => rfl⟩
    simp [led]

/-- A directory at a path stays there after growth. -/
theorem isDirectory_grows (there : files.isDirectory path = true)
    (grown : files.GrowsTo after written) : after.isDirectory path = true := by
  -- The path leads to the same place, and the directories on the way to it are still there.
  obtain ⟨allowed, walked, directory⟩ := isDirectory_iff.mp there
  refine isDirectory_iff.mpr ⟨allowed, ?_, ?_⟩
  · rw [grown.startOf, grown.placeOf]
    exact walk_grows grown.tree walked
  · rw [grown.placeOf]
    exact grown.tree.isDirectory directory

/-- A directory that is there already is not made. -/
theorem createDirectory_of_isDirectory (there : files.isDirectory path = true) :
    files.createDirectory path = .error .alreadyThere := by
  obtain ⟨allowed, walked, directory⟩ := isDirectory_iff.mp there
  cases last : (Path.steps path).getLast? with
  | none =>
    -- A path without steps leads to where it starts, which is a directory.
    have empty : Path.steps path = [] := List.getLast?_eq_none_iff.mp last
    rw [placeOf, empty] at directory
    simp only [createDirectory, siteOf, allowed, empty]
    simp [walk, show files.tree.isDirectory (files.startOf path) = true from directory]
  | some name =>
    -- The last step of the walk has found something under its name.
    obtain ⟨front, steps⟩ := List.getLast?_eq_some_iff.mp last
    rw [steps] at walked
    obtain ⟨middle, before, stepped⟩ := walk_append_iff.mp walked
    obtain ⟨within, named, _⟩ := walk_cons_iff.mp stepped
    have around : walk files.tree (files.startOf path) (Path.steps path).dropLast = .ok middle := by
      rwa [steps, List.dropLast_concat]
    simp only [createDirectory, siteOf, allowed, around, last, ok_bind, within]
    rcases named with dots | ⟨short, present⟩
    · simp [dots]
    · simp [Nat.not_lt.mpr short, present]

/-- A directory that was made is there. -/
theorem isDirectory_of_createDirectory (made : files.createDirectory path = .ok after) :
    after.isDirectory path = true := by
  -- Nothing that the walk has passed is lost, so the same walk leads to the new entry.
  have grown := createDirectory_grows made
  obtain ⟨allowed, place, name, walked, directory, named, plain, short, free, same⟩ :=
    createDirectory_ok made
  have stands : after.tree.get? (place ++ [name]) = some .directory := by
    simp [same, Tree.get?_put]
  have led : after.placeOf path = place ++ [name] := by
    rw [grown.placeOf, placeOf_eq walked named plain]
  refine isDirectory_iff.mpr ⟨allowed, ?_, by simp [led, Tree.isDirectory, stands]⟩
  rw [led]
  exact walk_to_last grown walked directory named plain short (by simp [stands])

/-- Where making a directory with all above it succeeds, it is there afterwards. -/
theorem isDirectory_of_createDirectories
    (made : files.createDirectories path = (.ok (), reached)) :
    path = "" ∨ reached.isDirectory path = true := by
  -- It was made at once, or after those above it, or something else than it was made first.
  simp only [createDirectories, createOutward] at made
  split at made
  · rename_i empty
    exact .inl (String.isEmpty_iff.mp empty)
  · refine .inr ?_
    -- The path itself is tried first.
    split at made
    · rename_i direct
      cases made
      exact isDirectory_of_createDirectory direct
    · -- If something above it is missing, that is made and the path is tried again.
      split at made
      · cases made
      · split at made
        · rename_i later
          cases made
          exact isDirectory_of_createDirectory later
        · -- A second failure is forgiven where the directory has come about meanwhile.
          split at made
          · cases made
            assumption
          · cases made
    · split at made
      · cases made
        assumption
      · cases made

/-- Making a directory that is there already succeeds and changes nothing. -/
theorem createDirectories_of_isDirectory (there : path = "" ∨ files.isDirectory path = true) :
    files.createDirectories path = (.ok (), files) := by
  -- The first attempt reports that something is there, which is looked at and accepted.
  rcases there with rfl | there
  · rfl
  · simp [createDirectories, createOutward, createDirectory_of_isDirectory there, there]

/-- Where making the directories above a path has succeeded, making them again after growth
changes nothing. -/
theorem createDirectoriesAbove_again
    (made : files.createDirectoriesAbove path = (.ok (), reached))
    (grown : reached.GrowsTo after written) :
    after.createDirectoriesAbove path = (.ok (), after) := by
  unfold createDirectoriesAbove at made ⊢
  cases above : Path.parent? path with
  | none => rfl
  | some parent =>
    simp only [above] at made
    -- The parent is there since it was made, and it stays there.
    exact createDirectories_of_isDirectory
      ((isDirectory_of_createDirectories made).imp_right (isDirectory_grows · grown))

/-- Whether a place is one that the steps of a path lead through. -/
def LiesOn (files : FileSystem) (path : String) (place : Location) : Prop :=
  ∃ way, way <+: Path.steps path ∧ place = placeAfter (files.startOf path) way

/-- The place that a path leads to lies on that path. -/
theorem liesOn_placeOf (files : FileSystem) (path : String) :
    files.LiesOn path (files.placeOf path) :=
  ⟨Path.steps path, List.prefix_refl _, rfl⟩

/-- The places of the paths above a path lie on that path. -/
theorem liesOn_ancestor (files : FileSystem) {path outer : String}
    (above : outer ∈ Path.ancestors path) : files.LiesOn path (files.placeOf outer) := by
  obtain ⟨count, _, rfl⟩ := List.mem_map.mp above
  have plain : ∀ part ∈ (Path.components path).take count, part ≠ "" ∧ '/' ∉ part.toList :=
    fun part member => Path.mem_steps
      (Path.mem_steps_of_mem_components (List.mem_of_mem_take member))
  -- The outer path has the first components, which are the first steps without dots.
  have front := (List.take_prefix count (Path.components path)).filter (· ≠ ".")
  rw [Path.components_filter] at front
  obtain ⟨more, whole⟩ := front
  obtain ⟨way, rest, steps, same, _⟩ := List.filter_eq_append_iff.mp whole.symm
  refine ⟨way, ⟨rest, steps.symm⟩, ?_⟩
  -- Both paths start from the same place.
  have start : files.startOf (Path.ofComponents (Path.isAbsolute path)
      ((Path.components path).take count)) = files.startOf path := by
    simp only [startOf, Path.isAbsolute_ofComponents _ plain]
  rw [placeOf, start, Path.steps_ofComponents _ plain, ← placeAfter_filter, ← same,
    placeAfter_filter]

/-- Making a directory with all above it is gaining directories on its path, even if it fails. -/
theorem createDirectories_gains (files : FileSystem) (path : String) :
    files.GainsDirectories (files.createDirectories path).2 (files.LiesOn path) := by
  -- Every directory that is made is at the path itself or at one above it.
  refine files.createOutward_gains (files.LiesOn path) fun outer member => ?_
  rcases List.mem_cons.mp member with rfl | above
  · exact files.liesOn_placeOf outer
  · exact files.liesOn_ancestor above

end FileSystem

end ContentClasses
