import ContentClasses.Proofs.Files.Rewriting
import ContentClasses.Proofs.Java.Emitter

/-! Writing the same classes once more succeeds as before and leaves everything as it is. -/

namespace ContentClasses.Java

/-- A workspace with another tree of files. -/
def Workspace.withTree (space : Workspace) (tree : Tree) : Workspace :=
  { space with files := { space.files with tree } }

namespace Target

variable {target : Target} {space next final : Workspace} {spec : ClassSpec}
  {specs : List ClassSpec} {paths : List String}

/-- The entries that the files for classes are in a tree, in the order of the classes. -/
def entries (target : Target) (space : Workspace) (specs : List ClassSpec) :
    List (Location × Entry) :=
  specs.map fun spec =>
    (space.files.placeOf (target.filePath spec), .text (target.source space.siblings spec))

/-- What writing a class has left can be written again. -/
theorem rewritable_of_writeFile {path : String}
    (written : target.writeFile space spec = (.ok path, next)) :
    next.files.Rewritable (target.filePath spec) := by
  -- The directories above the file were made, and then its text was written.
  delta writeFile at written
  simp only at written
  split at written
  · cases written
  · rename_i above
    split at written
    · cases written
    · rename_i text
      cases written
      exact FileSystem.rewritable_of_writeText above text

/-- A class whose file can be written again is written by a change of its text only. -/
theorem writeFile_again (again : space.files.Rewritable (target.filePath spec)) :
    target.writeFile space spec =
      (.ok (target.filePath spec), space.withTree
        (space.files.tree.put (space.files.placeOf (target.filePath spec))
          (.text (target.source space.siblings spec)))) := by
  delta writeFile
  simp [again.above, again.write, Workspace.withTree]

/-- Classes whose files can be written again are written by changes of their texts only. -/
theorem writeEach_again
    (again : ∀ spec ∈ specs, space.files.Rewritable (target.filePath spec)) :
    target.emitter.writeEach space specs =
      (.ok (specs.map target.filePath), space.withTree
        ⟨Association.putAll (target.entries space specs) space.files.tree.entries⟩) := by
  -- Each class finds its file as it was, but for the texts written before it.
  induction specs generalizing space with
  | nil => rfl
  | cons first rest ih =>
    have head := writeFile_again (again first (.head _))
    -- The first text changes, and all other files can still be written.
    have rewritable : ∀ spec ∈ rest, (space.withTree
        (space.files.tree.put (space.files.placeOf (target.filePath first))
          (.text (target.source space.siblings first)))).files.Rewritable
            (target.filePath spec) := by
      intro spec member
      exact (again spec (.tail _ member)).grows (FileSystem.writeText_grows
        ((again first (.head _)).write (target.source space.siblings first)))
    rw [← emitter_write] at head
    simp only [Emitter.writeEach, head, ih rewritable]
    rfl

/-- After classes were written, all their files can be written again, and the tree is what writing
their entries once more makes of it. -/
theorem writeEach_settled (written : target.emitter.writeEach space specs = (.ok paths, final)) :
    (∀ spec ∈ specs, final.files.Rewritable (target.filePath spec)) ∧
      Association.putAll (target.entries final specs) final.files.tree.entries =
        final.files.tree.entries := by
  -- The tree grows with every class that is written, which leaves every file where it was.
  induction specs generalizing space paths with
  | nil => exact ⟨by simp, rfl⟩
  | cons first rest ih =>
    obtain ⟨path, reached, others, head, later, rfl⟩ := Emitter.writeEach_cons_ok written
    rw [emitter_write] at head
    obtain ⟨again, settled⟩ := ih later
    obtain ⟨rfl, _, _, read⟩ := writeFile_ok head
    obtain ⟨rfl, siblings, grown⟩ := writeEach_grows later
    have here := (rewritable_of_writeFile head).grows grown
    refine ⟨List.forall_mem_cons.mpr ⟨here, again⟩, ?_⟩
    obtain ⟨content, present⟩ := here.present
    rw [entries, List.map_cons, Association.putAll_cons]
    -- Either a later class has the same file, or the file has kept the text of the first one.
    by_cases repeated : final.files.placeOf (target.filePath first) ∈
        (target.entries final rest).map (·.1)
    · have there := here.lookup present
      exact (Association.putAll_put (by simp [there]) repeated _).trans settled
    · obtain ⟨_, _, _, stands⟩ := FileSystem.readText_ok read
      have kept := grown.tree.get?_eq stands (by
        simpa [entries, Function.comp_def, grown.placeOf] using repeated)
      rw [← grown.placeOf] at kept
      -- Writing the first text once more changes nothing then.
      rw [Association.put_eq_self (by
        rw [here.lookup kept, siblings, (writeFile_ok head).2.1])]
      exact settled

/-- Writing the same classes again, with the emitter that has written them or with a new one,
succeeds with the same paths and changes nothing. -/
theorem writeAll_again (written : target.emitter.writeAll space specs = (.ok paths, final))
    (siblings : List String) :
    target.emitter.writeAll { final with siblings } specs = (.ok paths, final) := by
  -- The announcement makes up for whatever batch the emitter was told about before.
  obtain ⟨rfl, told, _⟩ := writeEach_grows written
  obtain ⟨again, settled⟩ := writeEach_settled written
  have announced : target.emitter.announce { final with siblings } specs = final := by
    have same : final.siblings = specs.map (·.name) := told
    simp [emitter, ← same]
  rw [Emitter.writeAll, announced, writeEach_again again, settled]
  rfl

/-- Two classes of one name and a class in another directory are written again as they were. -/
theorem writeAll_again_shared_name :
    let target : Target := { output := ⟨"out"⟩, package := "a.b" }
    let specs : List ClassSpec :=
      [⟨"Post", [], [], "post", []⟩, ⟨"Post", [], [], "blog_post", []⟩,
        ⟨"sub/../../Page", [], [], "page", []⟩]
    let paths := ["out/a/b/Post.java", "out/a/b/Post.java", "out/a/b/sub/../../Page.java"]
    ∃ final, target.emitter.writeAll { files := {} } specs = (.ok paths, final) ∧
      target.emitter.writeAll { final with siblings := [] } specs = (.ok paths, final) := by
  intro target specs paths
  -- Only the paths of the first run are evaluated, which tells that it succeeds.
  have written : (target.emitter.writeAll { files := {} } specs).1 = .ok paths := by
    decide +kernel
  cases finished : target.emitter.writeAll { files := {} } specs with
  | mk answer final =>
    rw [finished] at written
    cases written
    exact ⟨final, rfl, writeAll_again finished []⟩

end Target

end ContentClasses.Java
