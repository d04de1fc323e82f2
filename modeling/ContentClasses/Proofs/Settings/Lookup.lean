import ContentClasses.Proofs.Files.Operations
import ContentClasses.Settings.Load

/-! Which file of settings is found under a name, and what its place tells about its format. -/

namespace ContentClasses

namespace Path

/-- A last step that is not `.` is the last component as well. -/
theorem getLast?_components {path name : String} (last : (steps path).getLast? = some name)
    (plain : name ≠ ".") : (components path).getLast? = some name := by
  obtain ⟨front, same⟩ := List.getLast?_eq_some_iff.mp last
  -- A dot is dropped from the components unless it comes first.
  cases front with
  | nil => simp_all [components]
  | cons first front =>
    simp only [components, same, List.cons_append, List.filter_append]
    split <;> simp [plain, List.getLast?_append, List.getLast?_cons]

/-- A path continued by another one ends as that one does. -/
theorem endsInSlash_join (left : String) {right : String} (filled : right ≠ "") :
    endsInSlash (join left right) = endsInSlash right := by
  -- The last character of a filled path stands last behind any front.
  have last (front : List Char) :
      (front ++ right.toList).getLast? = right.toList.getLast? := by
    obtain ⟨c, ends⟩ := Option.ne_none_iff_exists'.mp fun none =>
      filled (String.toList_eq_nil_iff.mp (List.getLast?_eq_none_iff.mp none))
    rw [List.getLast?_append, ends, Option.some_or]
  unfold join
  split
  · rfl
  · have slash := last ['/']
    split <;> simp_all [endsInSlash]

/-- Joining two relative paths one after the other is joining them at once. -/
theorem join_join (left : String) {middle right : String} (relative : isAbsolute middle = false)
    (relative' : isAbsolute right = false) (filled : middle ≠ "")
    (unslashed : endsInSlash middle = false) :
    join (join left middle) right = join left (middle ++ "/" ++ right) := by
  -- What is joined second does not begin with a slash either.
  have whole : isAbsolute (middle ++ "/" ++ right) = false := by
    cases letters : middle.toList with
    | nil => exact absurd (String.toList_eq_nil_iff.mp letters) filled
    | cons first rest => simpa [isAbsolute, letters] using relative
  -- What was joined first does not end in a slash, so one is put behind it.
  have present : (join left middle).isEmpty = false := by
    rw [join, if_neg (by simp [relative])]
    split <;> simp [String.isEmpty_eq_false_iff, filled]
  have outer : join (join left middle) right = join left middle ++ "/" ++ right := by
    rw [join, if_neg (by simp [relative']), if_neg]
    simp [present, endsInSlash_join left filled, unslashed]
  rw [outer]
  unfold join
  simp only [relative, whole, Bool.false_eq_true, if_false]
  split <;> simp only [String.append_assoc]

/-- A path continued by another one has the last step of that one. -/
theorem getLast?_steps_join (left : String) {right name : String}
    (last : (steps right).getLast? = some name) :
    (steps (join left right)).getLast? = some name := by
  cases relative : isAbsolute right with
  | true => simpa [join, relative] using last
  | false => rw [steps_join relative, List.getLast?_append, last, Option.some_or]

/-- A path that ends in a letter of its last component is trimmed already. -/
theorem trimmed_eq_self {path : String} {front : List Char} {c : Char}
    (letters : path.toList = front ++ [c]) (slash : c ≠ '/') (dot : c ≠ '.') :
    trimmed path = path := by
  -- The last letter is neither a slash nor a dot, so nothing is cut off.
  have kept : untrailed (c :: front.reverse) = c :: front.reverse := by
    unfold untrailed
    split <;> simp_all
  rw [trimmed, letters, List.reverse_concat, kept, List.reverse_cons, List.reverse_reverse,
    ← letters, String.ofList_toList]

end Path

/-- An ending makes a trimmed path no shorter. -/
theorem le_withEnding {path : String} (trimmed : Path.trimmed path = path) (ending : String) :
    path.utf8ByteSize ≤ (withEnding path ending).utf8ByteSize := by
  -- The ending is put on top, or takes the place of nothing.
  unfold withEnding
  split
  · exact Nat.le_refl _
  · split
    · exact Nat.le_refl _
    · rw [trimmed, String.append_assoc, String.utf8ByteSize_append]
      exact Nat.le_add_right _ _

/-- Read from the back, a name with an ending begins with the ending. -/
theorem reverse_ending (front ending : String) : (front ++ "." ++ ending).toList.reverse =
    ending.toList.reverse ++ '.' :: front.toList.reverse := by
  simp

/-- Reading from the back does not stop in an ending without dot. -/
theorem ne_dot_of_plain {ending : String} (plain : '.' ∉ ending.toList) :
    ∀ c ∈ ending.toList.reverse, decide (c ≠ '.') = true := by
  intro c among
  have apart : c ≠ '.' := fun same => plain (same ▸ List.mem_reverse.mp among)
  simpa using apart

/-- A name with a filled opening in front of a dot and an ending without dot shows that ending. -/
theorem pathEnding?_eq_some {path opening ending : String}
    (last : (Path.components path).getLast? = some (opening ++ "." ++ ending))
    (filled : opening ≠ "") (plain : '.' ∉ ending.toList) (present : ending ≠ "") :
    pathEnding? path = some ending := by
  -- Both parts are filled, so the name is longer than two dots.
  have sizes : opening.toList ≠ [] ∧ ending.toList ≠ [] :=
    ⟨fun empty => filled (String.toList_eq_nil_iff.mp empty),
      fun empty => present (String.toList_eq_nil_iff.mp empty)⟩
  have other : opening ++ "." ++ ending ≠ ".." := fun same => by
    have lengths := congrArg (fun name => name.toList.length) same
    have left := List.length_pos_iff.mpr sizes.1
    have right := List.length_pos_iff.mpr sizes.2
    simp only [String.toList_append, List.length_append] at lengths
    have dots : ".".toList.length = 1 ∧ "..".toList.length = 2 := by decide
    omega
  -- The ending is read from the back of the name up to the last dot.
  have all := ne_dot_of_plain plain
  cases front : opening.toList.reverse with
  | nil => exact absurd (by simpa using front) filled
  | cons c rest =>
    simp only [pathEnding?, last, reverse_ending, List.takeWhile_append_of_pos all,
      List.dropWhile_append_of_pos all, front]
    simp [other]

/-- A name has one ending after a dot that has no dot itself. -/
theorem ending_unique {front opening ending other : String}
    (same : front ++ "." ++ ending = opening ++ "." ++ other) (plain : '.' ∉ ending.toList)
    (plain' : '.' ∉ other.toList) : ending = other := by
  -- Both are what is read from the back of the name up to the last dot.
  have read := congrArg (fun name => name.toList.reverse.takeWhile (· ≠ '.')) same
  simp only [reverse_ending, List.takeWhile_append_of_pos (ne_dot_of_plain plain),
    List.takeWhile_append_of_pos (ne_dot_of_plain plain')] at read
  exact String.toList_inj.mp (List.reverse_inj.mp (by simpa using read))

namespace SettingsFormat

variable {format : SettingsFormat} {ending : String}

/-- Every format is in the list of all. -/
theorem mem_all (format : SettingsFormat) : format ∈ all := by
  cases format with
  | toml | json => decide
  | foreign format => cases format <;> decide

/-- An ending that shows a format is not empty and has neither dots nor slashes. -/
theorem plain_of_mem_endings (shown : ending ∈ format.endings) :
    ending ≠ "" ∧ '.' ∉ ending.toList ∧ '/' ∉ ending.toList := by
  have each : ∀ format ∈ all, ∀ ending ∈ format.endings,
      ending ≠ "" ∧ '.' ∉ ending.toList ∧ '/' ∉ ending.toList := by decide
  exact each format format.mem_all ending shown

/-- No ending shows two formats. -/
theorem eq_of_mem_endings {other : SettingsFormat} (shown : ending ∈ format.endings)
    (shown' : ending ∈ other.endings) : format = other := by
  have each : ∀ format ∈ all, ∀ ending ∈ format.endings, ∀ other ∈ all,
      ending ∈ other.endings → format = other := by decide
  exact each format format.mem_all ending shown other other.mem_all shown'

end SettingsFormat

section

variable [Host] {format : SettingsFormat} {ending : String}

/-- In whatever order formats are tried, their endings are those that they have. -/
theorem mem_formatEndings : (ending, format) ∈ formatEndings ↔ ending ∈ format.endings := by
  -- All formats are tried, in some order.
  have tried : format ∈ Host.formats := Host.formats_perm.mem_iff.mpr format.mem_all
  simp only [formatEndings, List.mem_flatMap, List.mem_map, Prod.mk.injEq]
  constructor
  · rintro ⟨_, _, _, shown, rfl, rfl⟩
    exact shown
  · exact fun shown => ⟨format, tried, ending, shown, rfl, rfl⟩

/-- An ending shows the format that has it. -/
theorem lookup_formatEndings : formatEndings.lookup ending = some format ↔
    ending ∈ format.endings := by
  constructor
  · intro found
    obtain ⟨before, after, cut, _⟩ := List.lookup_eq_some_iff.mp found
    exact mem_formatEndings.mp (cut ▸ List.mem_append_right before (.head after))
  · intro shown
    have listed := mem_formatEndings.mpr shown
    cases found : formatEndings.lookup ending with
    | none => simpa using List.lookup_eq_none_iff.mp found _ listed
    | some other =>
      -- What comes first under the ending is the only format that has it.
      obtain ⟨before, after, cut, _⟩ := List.lookup_eq_some_iff.mp found
      have first := mem_formatEndings.mp (cut ▸ List.mem_append_right before (.head after))
      rw [SettingsFormat.eq_of_mem_endings first shown]

end

namespace FileSystem

variable {files after : FileSystem} {path content : String}

/-- A path under which a text can be read ends in the name of that text or in two dots. -/
theorem readText_last {name : String} (read : files.readText path = .ok content)
    (last : (Path.steps path).getLast? = some name) :
    name ≠ "." ∧ (name ≠ ".." → (files.placeOf path).getLast? = some name) := by
  -- The last step of the path leads to what was read.
  obtain ⟨_, _, walked, stands⟩ := readText_ok read
  obtain ⟨front, same⟩ := List.getLast?_eq_some_iff.mp last
  rw [same] at walked
  obtain ⟨middle, _, stepped⟩ := walk_append_iff.mp walked
  obtain ⟨directory, _, reached⟩ := walk_cons_iff.mp stepped
  have place : files.placeOf path = stepFrom middle name := (Except.ok.inj reached).symm
  have plain : name ≠ "." := by
    rintro rfl
    -- A dot stays where it is, which would have to be a directory.
    rw [place, stepFrom_dot] at stands
    simp [Tree.isDirectory, stands] at directory
  refine ⟨plain, fun named => ?_⟩
  rw [place, stepFrom_name (by simp [isDots, plain, named])]
  simp

/-- A file whose text can be read is there. -/
theorem isFile_of_readText (read : files.readText path = .ok content) :
    files.isFile path = true := by
  obtain ⟨allowed, slash, walked, stands⟩ := readText_ok read
  have led := locate_ok_iff.mpr ⟨allowed, walked, stands, by simp [slash]⟩
  simp [isFile, entry?, led]

section

variable [Host] {name found : String} {format : SettingsFormat}

/-- The file of settings under a name has an ending of its own, or one that was added to it. -/
theorem findSettings_ok (search : files.findSettings name = .ok (found, format)) :
    (∃ ending, pathEnding? found = some ending ∧ ending ∈ format.endings) ∨
      ∃ opening ending, found = opening ++ "." ++ ending ∧ ending ∈ format.endings := by
  unfold findSettings at search
  generalize Path.join files.workingPath name = whole at search
  simp only at search
  -- A file under the name itself comes before those with an ending added.
  split at search
  · split at search
    · rename_i shown
      cases search
      obtain ⟨ending, last, listed⟩ := Option.bind_eq_some_iff.mp shown
      exact .inl ⟨ending, last, lookup_formatEndings.mp listed⟩
    · cases search
  · rename_i missing
    split at search
    · rename_i ending kind added
      cases search
      have there := List.find?_some added
      -- A path to which nothing can be added is the one that was not there.
      unfold withEnding at there ⊢
      split at there
      · exact absurd there missing
      · split at there
        · exact absurd there missing
        · rename_i last plain
          exact .inr ⟨Path.trimmed whole, ending, by simp [plain],
            mem_formatEndings.mp (List.mem_of_find?_eq_some added)⟩
    · cases search

/-- A file that is named in full is found, and its ending shows its format. -/
theorem findSettings_of_isFile {ending : String}
    (file : files.isFile (Path.join files.workingPath name) = true)
    (shown : pathEnding? (Path.join files.workingPath name) = some ending)
    (listed : ending ∈ format.endings) :
    files.findSettings name = .ok (Path.join files.workingPath name, format) := by
  simp [findSettings, file, shown, lookup_formatEndings.mpr listed]

/-- Nothing is found if no file stands under the name, or under the name with an ending. -/
theorem findSettings_missing
    (absent : files.isFile (Path.join files.workingPath name) = false)
    (ended : ∀ ending,
      files.isFile (withEnding (Path.join files.workingPath name) ending) = false) :
    files.findSettings name = .error (.missingFile name) := by
  simp only [findSettings, absent, Bool.false_eq_true, if_false]
  -- Whatever ending is found would lead to a file.
  split
  · rename_i added
    have there := List.find?_some added
    rw [ended] at there
    nomatch there
  · rfl

/-- A file of settings at a place whose name ends in `.toml` is in that format. -/
theorem findSettings_toml {opening : String}
    (search : files.findSettings name = .ok (found, format))
    (read : files.readText found = .ok content) (filled : opening ≠ "")
    (place : (files.placeOf found).getLast? = some (opening ++ ".toml")) : format = .toml := by
  have toml : "toml" ∈ SettingsFormat.toml.endings := .head _
  have whole : opening ++ "." ++ "toml" = opening ++ ".toml" := by rw [String.append_assoc]; rfl
  rw [← whole] at place
  -- The last name of the path is that of the place, and the format is told by its ending.
  rcases findSettings_ok search with ⟨ending, shown, listed⟩ | ⟨front, ending, rfl, listed⟩
  · -- A name of its own must have an ending that is known, which is the last part of the place.
    cases last : (Path.steps found).getLast? with
    | none =>
      have empty : Path.components found = [] := by
        simp [Path.components, List.getLast?_eq_none_iff.mp last]
      simp [pathEnding?, empty] at shown
    | some step =>
      obtain ⟨plain, reached⟩ := readText_last read last
      have component := Path.getLast?_components last plain
      have named : step ≠ ".." := by
        rintro rfl
        simp [pathEnding?, component] at shown
      obtain rfl := Option.some.inj ((reached named).symm.trans place)
      rw [pathEnding?_eq_some component filled (by decide) (by decide)] at shown
      cases shown
      exact SettingsFormat.eq_of_mem_endings listed toml
  · obtain ⟨present, plain, noSlash⟩ := SettingsFormat.plain_of_mem_endings listed
    obtain ⟨_, before, steps⟩ := Path.steps_append_name front
      (show "." ++ ending ≠ "" by simp) (by simpa using noSlash)
    rw [← String.append_assoc, ← String.append_assoc] at steps
    have last : (Path.steps (front ++ "." ++ ending)).getLast? =
        some (before ++ "." ++ ending) := by
      rw [steps, List.getLast?_concat]
    -- Two dots alone would be an empty ending.
    have named : before ++ "." ++ ending ≠ ".." := fun dots =>
      have cut : before ++ "." ++ ending = "." ++ "." ++ "" := dots
      present (ending_unique cut plain (by decide))
    have same := Option.some.inj (((readText_last read last).2 named).symm.trans place)
    rw [ending_unique same plain (by decide)] at listed
    exact SettingsFormat.eq_of_mem_endings listed toml

/-- What is found as settings is a file. -/
theorem isFile_of_findSettings (search : files.findSettings name = .ok (found, format)) :
    files.isFile found = true := by
  -- Both ways to a path ask for a file there.
  unfold findSettings at search
  simp only at search
  split at search
  · split at search
    · cases search
      assumption
    · cases search
  · split at search
    · rename_i ending kind added
      cases search
      simpa using List.find?_some added
    · cases search

end

/-- A file stands at the place of its path. -/
theorem isFile_place (file : files.isFile path = true) :
    admitted path = .ok () ∧
      ∃ entry, files.tree.get? (files.placeOf path) = some entry ∧ entry ≠ .directory := by
  unfold isFile entry? at file
  -- The path leads to something, and it is no directory.
  cases led : files.locate path with
  | error cause => simp [led] at file
  | ok found =>
    obtain ⟨place, entry⟩ := found
    obtain ⟨allowed, walked, stands, _⟩ := locate_ok_iff.mp led
    have same : place = files.placeOf path := walk_place walked
    refine ⟨allowed, entry, same ▸ stands, ?_⟩
    rintro rfl
    simp [led] at file

/-- Whether the working directory is there under its own path. -/
def Rooted (files : FileSystem) : Prop :=
  files.locate files.workingPath = .ok (files.workingDirectory, .directory)

/-- The path of the working directory starts at the root. -/
theorem isAbsolute_workingPath (files : FileSystem) :
    Path.isAbsolute files.workingPath = true := by
  simp [workingPath, Path.ofComponents, Path.isAbsolute]

/-- A rooted working directory is reached from the root by the steps of its path. -/
theorem Rooted.reached (rooted : files.Rooted) :
    admitted files.workingPath = .ok () ∧
      walk files.tree [] (Path.steps files.workingPath) = .ok files.workingDirectory := by
  obtain ⟨allowed, walked, _, _⟩ := locate_ok_iff.mp rooted
  exact ⟨allowed, by simpa [startOf, isAbsolute_workingPath] using walked⟩

/-- A text that was written is written in the same way under its full path. -/
theorem writeText_join (rooted : files.Rooted)
    (short : (Path.join files.workingPath path).utf8ByteSize ≤ maxPath)
    (written : files.writeText path content = .ok after) :
    files.writeText (Path.join files.workingPath path) content = .ok after := by
  cases relative : Path.isAbsolute path with
  | true => simpa [Path.join, relative] using written
  | false =>
    obtain ⟨allowed, slash, place, name, walked, directory, named, plain, few, open_, rfl⟩ :=
      writeText_ok written
    obtain ⟨base, reached⟩ := rooted.reached
    have given := admitted_iff.mp allowed
    have clean := (admitted_iff.mp base).1
    -- The path behind the working directory is one that may be asked for.
    have whole : admitted (Path.join files.workingPath path) = .ok () := by
      refine admitted_iff.mpr ⟨?_, ?_, short⟩
      · unfold Path.join
        rw [if_neg (by simp [relative])]
        split <;> simp [clean, given.1]
      · unfold Path.join
        rw [if_neg (by simp [relative])]
        split <;> simp [given.2.1]
    -- The steps of the working directory are gone first, and then the walk is the same.
    have filled : Path.steps path ≠ [] := fun empty => by simp [empty] at named
    have along : walk files.tree (files.startOf (Path.join files.workingPath path))
        (Path.steps (Path.join files.workingPath path)).dropLast = .ok place := by
      rw [startOf, Path.isAbsolute_join relative, isAbsolute_workingPath, Path.steps_join relative,
        List.dropLast_append_of_ne_nil filled]
      exact walk_append reached (by simpa [startOf, relative] using walked)
    exact writeText_of_site whole (by rw [Path.endsInSlash_join _ given.2.1, slash]) along directory
      (Path.getLast?_steps_join _ named) plain few open_ content

end FileSystem

end ContentClasses
