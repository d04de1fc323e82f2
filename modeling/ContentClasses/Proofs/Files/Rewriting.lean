import ContentClasses.Proofs.Files.Directories

/-! Texts that were written can be written again, in every file system that has grown since. -/

namespace ContentClasses

namespace FileSystem

variable {files reached after later : FileSystem} {path content : String} {written : List Location}

/-- Where one text was written, every text can be written after growth that made no directory of
the place. -/
theorem writeText_grows_again (done : files.writeText path content = .ok after)
    (grown : files.GrowsTo later written)
    (open_ : later.tree.get? (files.placeOf path) ≠ some .directory) (other : String) :
    later.writeText path other =
      .ok { later with tree := later.tree.put (later.placeOf path) (.text other) } := by
  obtain ⟨allowed, slash, place, name, walked, directory, named, plain, short, _, _⟩ :=
    writeText_ok done
  -- The way to the directory is still there, and it leads to the same place.
  have still := walk_grows grown.tree walked
  rw [← grown.startOf] at still
  have led : later.placeOf path = place ++ [name] := placeOf_eq still named plain
  rw [← grown.placeOf, led] at open_
  rw [led]
  exact writeText_of_site allowed slash still (grown.tree.isDirectory directory) named plain short
    (by simpa [Tree.isDirectory] using open_) other

/-- Whether a text stands at a path that can be written again, with nothing to make above it. -/
structure Rewritable (files : FileSystem) (path : String) : Prop where
  above : files.createDirectoriesAbove path = (.ok (), files)
  present : ∃ content, files.tree.get? (files.placeOf path) = some (.text content)
  write : ∀ content, files.writeText path content =
    .ok { files with tree := files.tree.put (files.placeOf path) (.text content) }

/-- A text stays a text under growth, though perhaps not the same one. -/
theorem GrowsTo.text (grown : files.GrowsTo after written) {place : Location}
    (present : files.tree.get? place = some (.text content)) :
    ∃ content, after.tree.get? place = some (.text content) := by
  rcases grown.tree place with same | ⟨free, _⟩ | ⟨_, _, changed⟩
  · exact ⟨content, same.trans present⟩
  · -- A directory appears only where nothing stood.
    rw [present] at free
    cases free
  · exact changed

/-- What can be written again can be written again after growth. -/
theorem Rewritable.grows (again : files.Rewritable path) (grown : files.GrowsTo after written) :
    after.Rewritable path := by
  -- The text may have changed meanwhile, but it is still a text.
  obtain ⟨content, present⟩ := again.present
  obtain ⟨new, still⟩ := grown.text present
  refine ⟨createDirectoriesAbove_again again.above grown, ⟨new, ?_⟩, ?_⟩
  · rw [grown.placeOf, still]
  · exact writeText_grows_again (again.write content) grown (by simp [still])

/-- What was written after the directories above it were made can be written again. -/
theorem rewritable_of_writeText (above : files.createDirectoriesAbove path = (.ok (), reached))
    (done : reached.writeText path content = .ok after) : after.Rewritable path := by
  -- After the writing there is a text to write over, with its directories above it.
  have grown := writeText_grows done
  obtain ⟨_, _, _, stands⟩ := readText_ok (readText_writeText done)
  refine ⟨createDirectoriesAbove_again above grown, ⟨content, stands⟩, ?_⟩
  rw [grown.placeOf] at stands
  exact writeText_grows_again done grown (by simp [stands])

/-- A text that can be written again has an entry of its own in the tree. -/
theorem Rewritable.lookup (again : files.Rewritable path) {entry : Entry}
    (stands : files.tree.get? (files.placeOf path) = some entry) :
    files.tree.entries.lookup (files.placeOf path) = some entry := by
  -- Only the root has none, and it is a directory.
  obtain ⟨content, present⟩ := again.present
  have below : files.placeOf path ≠ [] := by
    intro root
    simp [root] at present
  simpa [Tree.get?, below] using stands

end FileSystem

end ContentClasses
