import ContentClasses.Proofs.Files.Growth
import ContentClasses.Proofs.Files.Path
import ContentClasses.Proofs.Steps

/-! Operations on files only make the tree grow, and what they have written can be read back. -/

namespace ContentClasses.FileSystem

/-- The place that a path leads to, by its steps alone. -/
def placeOf (files : FileSystem) (path : String) : Location :=
  placeAfter (files.startOf path) (Path.steps path)

/-- A relative path leads on from the directory that it continues. -/
theorem placeOf_join (files : FileSystem) (directory : String) {path : String}
    (relative : Path.isAbsolute path = false) :
    files.placeOf (Path.join directory path) =
      placeAfter (files.placeOf directory) (Path.steps path) := by
  -- Joining a relative path does not change where the way starts.
  have start : files.startOf (Path.join directory path) = files.startOf directory := by
    simp only [startOf, Path.isAbsolute_join relative]
  rw [placeOf, start, Path.steps_join relative, placeAfter_append]
  rfl

/-- A path that starts at the root leads to the same place from every directory. -/
theorem placeOf_join_absolute (files : FileSystem) (directory : String) {path : String}
    (absolute : Path.isAbsolute path = true) :
    files.placeOf (Path.join directory path) = placeAfter [] (Path.steps path) := by
  simp [Path.join, absolute, placeOf, startOf]

/-- A file system grows as its tree does, and its working directory stays. -/
structure GrowsTo (before after : FileSystem) (written : List Location) : Prop where
  tree : before.tree.GrowsTo after.tree written
  workingDirectory : after.workingDirectory = before.workingDirectory

namespace GrowsTo

variable {before middle after : FileSystem} {written : List Location}

/-- A file system grows to itself. -/
theorem refl (files : FileSystem) (written : List Location) : files.GrowsTo files written :=
  ⟨.refl _ _, rfl⟩

/-- Growing twice is growing. -/
theorem trans (first : before.GrowsTo middle written) (second : middle.GrowsTo after written) :
    before.GrowsTo after written :=
  ⟨first.tree.trans second.tree, second.workingDirectory.trans first.workingDirectory⟩

/-- Growth within some places is growth within more places. -/
theorem mono {more : List Location} (grown : before.GrowsTo after written)
    (included : written ⊆ more) : before.GrowsTo after more :=
  ⟨grown.tree.mono included, grown.workingDirectory⟩

/-- Paths start from the same place after growth. -/
theorem startOf (grown : before.GrowsTo after written) (path : String) :
    after.startOf path = before.startOf path := by
  simp [FileSystem.startOf, grown.workingDirectory]

/-- Paths lead to the same place after growth. -/
theorem placeOf (grown : before.GrowsTo after written) (path : String) :
    after.placeOf path = before.placeOf path := by
  simp [FileSystem.placeOf, grown.startOf]

end GrowsTo

/-- A file system gains directories at places of a kind where nothing stood, and nothing else
changes. -/
structure GainsDirectories (before after : FileSystem) (places : Location → Prop) : Prop where
  tree : ∀ place, after.tree.get? place = before.tree.get? place ∨
    places place ∧ before.tree.get? place = none ∧ after.tree.get? place = some .directory
  workingDirectory : after.workingDirectory = before.workingDirectory

namespace GainsDirectories

variable {before middle after : FileSystem} {places : Location → Prop}

/-- A file system gains nothing from itself. -/
theorem refl (files : FileSystem) (places : Location → Prop) :
    files.GainsDirectories files places :=
  ⟨fun _ => .inl rfl, rfl⟩

/-- Gaining directories twice is gaining directories. -/
theorem trans (first : before.GainsDirectories middle places)
    (second : middle.GainsDirectories after places) : before.GainsDirectories after places := by
  refine ⟨fun place => ?_, second.workingDirectory.trans first.workingDirectory⟩
  -- A directory that was gained first is there already when others are gained.
  rcases second.tree place with kept | ⟨allowed, free, made⟩
  · rw [kept]
    exact first.tree place
  · rcases first.tree place with same | ⟨_, _, earlier⟩
    · exact .inr ⟨allowed, same ▸ free, made⟩
    · rw [earlier] at free
      cases free

/-- Directories at places of a kind are at places of every wider kind. -/
theorem mono {more : Location → Prop} (gained : before.GainsDirectories after places)
    (included : ∀ place, places place → more place) : before.GainsDirectories after more :=
  ⟨fun place => (gained.tree place).imp_right fun made => ⟨included place made.1, made.2⟩,
    gained.workingDirectory⟩

/-- Gaining directories is growth without any text. -/
theorem grows (gained : before.GainsDirectories after places) : before.GrowsTo after [] :=
  ⟨fun place => (gained.tree place).imp_right fun made => .inl made.2, gained.workingDirectory⟩

end GainsDirectories

variable {files after : FileSystem} {path content : String}

/-- The paths that operations accept are filled, not too long, and without null characters. -/
theorem admitted_iff :
    admitted path = .ok () ↔
      '\x00' ∉ path.toList ∧ path ≠ "" ∧ path.utf8ByteSize ≤ maxPath := by
  -- The three refusals are told in the order in which they are checked.
  simp only [admitted, List.contains_eq_mem, decide_eq_true_eq, String.isEmpty_iff]
  split
  · simp [*]
  · split
    · simp [*]
    · split <;> simp_all

/-- What a path leads to is found by a walk along its steps, and only a directory stands at one that
ends in a slash. -/
theorem locate_ok_iff {place : Location} {entry : Entry} :
    files.locate path = .ok (place, entry) ↔ admitted path = .ok () ∧
      walk files.tree (files.startOf path) (Path.steps path) = .ok place ∧
      files.tree.get? place = some entry ∧
      (Path.endsInSlash path = true → entry = .directory) := by
  unfold locate
  -- A path that is refused, or whose walk fails, leads to nothing.
  cases admitted path with
  | error cause => simp
  | ok _ =>
    cases walk files.tree (files.startOf path) (Path.steps path) with
    | error cause => simp
    | ok reached =>
      simp only [ok_bind, Except.ok.injEq, true_and]
      constructor
      · intro led
        split at led
        · cases led
        · cases led
          simp [*]
        · -- Another entry than a directory is refused behind a slash.
          split at led
          · cases led
          · cases led
            simp [*]
      · -- A text stands at the place only if the path has no slash at its end.
        rintro ⟨rfl, stands, slash⟩
        rw [stands]
        cases entry <;> simp_all

/-- A site is the directory that all steps but the last lead to, beside that last step. -/
theorem siteOf_ok {place : Location} {last : Option String}
    (found : files.siteOf path = .ok (place, last)) :
    admitted path = .ok () ∧
      walk files.tree (files.startOf path) (Path.steps path).dropLast = .ok place ∧
      files.tree.isDirectory place = true ∧ last = (Path.steps path).getLast? := by
  -- Each of the three checks ends the search when it fails.
  unfold siteOf at found
  obtain ⟨_, allowed, found⟩ := bind_eq_ok_iff.mp found
  obtain ⟨reached, walked, found⟩ := bind_eq_ok_iff.mp found
  split at found
  · rename_i directory
    cases found
    exact ⟨allowed, walked, directory, rfl⟩
  · cases found

/-- A directory is made under the last step of its path, where nothing stood. -/
theorem createDirectory_ok (made : files.createDirectory path = .ok after) :
    admitted path = .ok () ∧
      ∃ place name,
        walk files.tree (files.startOf path) (Path.steps path).dropLast = .ok place ∧
        files.tree.isDirectory place = true ∧ (Path.steps path).getLast? = some name ∧
        isDots name = false ∧ name.utf8ByteSize ≤ maxName ∧
        files.tree.get? (place ++ [name]) = none ∧
        after = { files with tree := files.tree.put (place ++ [name]) .directory } := by
  -- All branches but the last refuse, and the last one has seen that the place is free.
  unfold createDirectory at made
  obtain ⟨⟨place, last⟩, site, made⟩ := bind_eq_ok_iff.mp made
  obtain ⟨allowed, walked, directory, named⟩ := siteOf_ok site
  cases last with
  | none => cases made
  | some name =>
    simp only at made
    -- The last step is a dot or two of them.
    split at made
    · cases made
    · rename_i plain
      -- The name is too long.
      split at made
      · cases made
      · rename_i short
        -- Something stands there already.
        split at made
        · cases made
        · rename_i free
          cases made
          exact ⟨allowed, place, name, walked, directory, named.symm, by simpa using plain,
            Nat.not_lt.mp short, by simpa using free, rfl⟩

/-- A text is written under the last step of its path, where no directory stands. -/
theorem writeText_ok (written : files.writeText path content = .ok after) :
    admitted path = .ok () ∧ Path.endsInSlash path = false ∧
      ∃ place name,
        walk files.tree (files.startOf path) (Path.steps path).dropLast = .ok place ∧
        files.tree.isDirectory place = true ∧ (Path.steps path).getLast? = some name ∧
        isDots name = false ∧ name.utf8ByteSize ≤ maxName ∧
        files.tree.isDirectory (place ++ [name]) = false ∧
        after = { files with tree := files.tree.put (place ++ [name]) (.text content) } := by
  -- Each guard that lets the write pass gives one part of what is known about the place.
  unfold writeText at written
  obtain ⟨⟨place, last⟩, site, written⟩ := bind_eq_ok_iff.mp written
  obtain ⟨allowed, walked, directory, named⟩ := siteOf_ok site
  cases last with
  | none => cases written
  | some name =>
    simp only at written
    -- The last step names no entry, or a slash follows it.
    split at written
    · cases written
    · rename_i plain
      simp only [Bool.or_eq_true, not_or, Bool.not_eq_true] at plain
      -- The name is too long.
      split at written
      · cases written
      · rename_i short
        -- A directory stands there.
        split at written
        · cases written
        · rename_i open_
          cases written
          exact ⟨allowed, plain.2, place, name, walked, directory, named.symm, plain.1,
            Nat.not_lt.mp short, by simpa using open_, rfl⟩

/-- A text can be written under the last step of a path whose other steps lead to a directory. -/
theorem writeText_of_site {place : Location} {name : String} (allowed : admitted path = .ok ())
    (slash : Path.endsInSlash path = false)
    (walked : walk files.tree (files.startOf path) (Path.steps path).dropLast = .ok place)
    (directory : files.tree.isDirectory place = true)
    (named : (Path.steps path).getLast? = some name) (plain : isDots name = false)
    (short : name.utf8ByteSize ≤ maxName)
    (open_ : files.tree.isDirectory (place ++ [name]) = false) (content : String) :
    files.writeText path content =
      .ok { files with tree := files.tree.put (place ++ [name]) (.text content) } := by
  -- Every check of the operation is one of the conditions.
  simp [writeText, siteOf, allowed, slash, walked, directory, named, plain, Nat.not_lt.mpr short,
    open_]

/-- A path whose last step names an entry leads to that entry below where its other steps lead. -/
theorem placeOf_eq {place : Location} {name : String}
    (walked : walk files.tree (files.startOf path) (Path.steps path).dropLast = .ok place)
    (named : (Path.steps path).getLast? = some name) (plain : isDots name = false) :
    files.placeOf path = place ++ [name] := by
  -- The path is cut before its last step, which is neither of the two that have no entry.
  obtain ⟨front, steps⟩ := List.getLast?_eq_some_iff.mp named
  rw [steps, List.dropLast_concat] at walked
  rw [placeOf, steps, placeAfter, List.foldl_append, List.foldl_cons, List.foldl_nil,
    walk_place walked, ← stepFrom_name plain]
  rfl

/-- Making one directory is gaining it at the place of its path. -/
theorem createDirectory_gains (made : files.createDirectory path = .ok after) :
    files.GainsDirectories after (· = files.placeOf path) := by
  -- Only the entry under the last step is new.
  obtain ⟨_, place, name, walked, _, named, plain, _, free, rfl⟩ := createDirectory_ok made
  rw [placeOf_eq walked named plain]
  refine ⟨fun other => ?_, rfl⟩
  by_cases same : other = place ++ [name]
  · exact .inr ⟨same, same ▸ free, by simp [Tree.get?_put, same]⟩
  · exact .inl (by simp [Tree.get?_put, same])

/-- Making one directory makes the file system grow without any text. -/
theorem createDirectory_grows (made : files.createDirectory path = .ok after) :
    files.GrowsTo after [] :=
  (createDirectory_gains made).grows

/-- Making directories outward is gaining some at the places of their paths, even if it fails. -/
theorem createOutward_gains (files : FileSystem) (places : Location → Prop) {paths : List String}
    (allowed : ∀ path ∈ paths, places (files.placeOf path)) :
    files.GainsDirectories (files.createOutward paths).2 places := by
  -- The directories above a path are made first, and then the directory itself.
  induction paths with
  | nil => exact .refl files places
  | cons path outer ih =>
    obtain ⟨here, above⟩ := List.forall_mem_cons.mp allowed
    simp only [createOutward]
    split
    · -- An empty path stands for a directory that is there.
      exact .refl files places
    · split
      · rename_i made
        exact (createDirectory_gains made).mono fun _ same => same ▸ here
      · -- Something above the path is missing, so the outer directories come first.
        split
        · rename_i failed
          simpa [failed] using ih above
        · rename_i reached done
          have gained : files.GainsDirectories reached places := by simpa [done] using ih above
          -- Then the path is tried for the second time.
          split
          · rename_i made
            rw [← gained.grows.placeOf] at here
            exact gained.trans ((createDirectory_gains made).mono fun _ same => same ▸ here)
          · split <;> exact gained
      · split <;> exact .refl files places

/-- Making a directory with all above it makes the file system grow without any text, even if it
fails. -/
theorem createDirectories_grows (files : FileSystem) (path : String) :
    files.GrowsTo (files.createDirectories path).2 [] :=
  (files.createOutward_gains (fun _ => True) fun _ _ => trivial).grows

/-- Making the directories above a path makes the file system grow without any text, even if it
fails. -/
theorem createDirectoriesAbove_grows (files : FileSystem) (path : String) :
    files.GrowsTo (files.createDirectoriesAbove path).2 [] := by
  -- A path without parent has nothing above it.
  unfold createDirectoriesAbove
  cases Path.parent? path with
  | none => exact .refl files []
  | some parent => exact files.createDirectories_grows parent

/-- Writing a text makes the file system grow at the place of its path only. -/
theorem writeText_grows (written : files.writeText path content = .ok after) :
    files.GrowsTo after [files.placeOf path] := by
  -- The entry under the last step is the only one that is put.
  obtain ⟨_, _, place, name, walked, _, named, plain, _, open_, rfl⟩ := writeText_ok written
  rw [placeOf_eq walked named plain]
  exact ⟨Tree.growsTo_put_text content (by simpa [Tree.isDirectory] using open_), rfl⟩

/-- A path leads to what has come to stand under its last step. -/
theorem walk_to_last {place : Location} {name : String} {changed : List Location}
    (grown : files.GrowsTo after changed)
    (walked : walk files.tree (files.startOf path) (Path.steps path).dropLast = .ok place)
    (directory : files.tree.isDirectory place = true)
    (named : (Path.steps path).getLast? = some name) (plain : isDots name = false)
    (short : name.utf8ByteSize ≤ maxName)
    (stands : (after.tree.get? (place ++ [name])).isSome = true) :
    walk after.tree (after.startOf path) (Path.steps path) = .ok (place ++ [name]) := by
  -- The walk to the directory succeeds as before, and its last step now finds something.
  have last : walk after.tree place [name] = .ok (place ++ [name]) :=
    walk_cons_iff.mpr ⟨grown.tree.isDirectory directory, .inr ⟨short, stands⟩,
      by rw [stepFrom_name plain]; rfl⟩
  obtain ⟨front, steps⟩ := List.getLast?_eq_some_iff.mp named
  rw [steps, List.dropLast_concat] at walked
  rw [steps, grown.startOf]
  exact walk_append (walk_grows grown.tree walked) last

/-- A text is read where the walk along a path ends at it. -/
theorem readText_of_walk {place : Location} (allowed : admitted path = .ok ())
    (slash : Path.endsInSlash path = false)
    (walked : walk files.tree (files.startOf path) (Path.steps path) = .ok place)
    (stands : files.tree.get? place = some (.text content)) :
    files.readText path = .ok content :=
  bind_eq_ok_iff.mpr
    ⟨(place, .text content), locate_ok_iff.mpr ⟨allowed, walked, stands, by simp [slash]⟩, rfl⟩

/-- A text that was written is read back. -/
theorem readText_writeText (written : files.writeText path content = .ok after) :
    after.readText path = .ok content := by
  -- The walk to the new text takes the steps that the writing has taken.
  have grown := writeText_grows written
  obtain ⟨allowed, slash, place, name, walked, directory, named, plain, short, open_, same⟩ :=
    writeText_ok written
  have stands : after.tree.get? (place ++ [name]) = some (.text content) := by
    simp [same, Tree.get?_put]
  have whole := walk_to_last grown walked directory named plain short (by simp [stands])
  exact readText_of_walk allowed slash whole stands

/-- A text that can be read stands at the place of its path. -/
theorem readText_ok (read : files.readText path = .ok content) :
    admitted path = .ok () ∧ Path.endsInSlash path = false ∧
      walk files.tree (files.startOf path) (Path.steps path) = .ok (files.placeOf path) ∧
      files.tree.get? (files.placeOf path) = some (.text content) := by
  -- The look-up ends where the walk does, and only a text without slash behind it is answered.
  unfold readText at read
  obtain ⟨⟨place, entry⟩, led, answered⟩ := bind_eq_ok_iff.mp read
  obtain ⟨allowed, walked, stands, slash⟩ := locate_ok_iff.mp led
  have same : place = files.placeOf path := walk_place walked
  subst same
  cases entry with
  | directory | bytes => cases answered
  | text other =>
    cases answered
    exact ⟨allowed, by simpa using slash, walked, stands⟩

/-- A text is read unchanged after growth at other places. -/
theorem readText_grows {written : List Location} (read : files.readText path = .ok content)
    (grown : files.GrowsTo after written) (other : files.placeOf path ∉ written) :
    after.readText path = .ok content := by
  -- The same walk ends at the same place, which still holds the text.
  obtain ⟨allowed, slash, walked, stands⟩ := readText_ok read
  have still := grown.tree.get?_eq stands other
  have again : walk after.tree (after.startOf path) (Path.steps path) =
      .ok (files.placeOf path) := by
    rw [grown.startOf]
    exact walk_grows grown.tree walked
  exact readText_of_walk allowed slash again still

end ContentClasses.FileSystem
