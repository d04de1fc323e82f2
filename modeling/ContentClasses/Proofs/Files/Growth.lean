import ContentClasses.Files.System

/-! Trees that only grow, and the places that paths lead to in them. -/

namespace ContentClasses

namespace Tree

/-- What may become of a tree: directories appear where nothing stood, texts appear or change at
given places where no directory stood, and all else stays as it is. -/
def GrowsTo (before after : Tree) (written : List Location) : Prop :=
  ∀ place, after.get? place = before.get? place ∨
    (before.get? place = none ∧ after.get? place = some .directory) ∨
    (place ∈ written ∧ before.get? place ≠ some .directory ∧
      ∃ content, after.get? place = some (.text content))

namespace GrowsTo

variable {before middle after : Tree} {written : List Location}

/-- A tree grows to itself. -/
theorem refl (tree : Tree) (written : List Location) : tree.GrowsTo tree written :=
  fun _ => .inl rfl

/-- Growing twice is growing. -/
theorem trans (first : before.GrowsTo middle written) (second : middle.GrowsTo after written) :
    before.GrowsTo after written := by
  -- What the second growth does to a place depends on what the first has left there.
  intro place
  rcases first place with same | ⟨free, made⟩ | ⟨member, open_, content, text⟩
  · -- A place that the first growth leaves alone changes as in the second one.
    rcases second place with kept | ⟨free, made⟩ | ⟨member, open_, changed⟩
    · exact .inl (kept.trans same)
    · exact .inr (.inl ⟨same ▸ free, made⟩)
    · exact .inr (.inr ⟨member, same ▸ open_, changed⟩)
  · -- A new directory is neither free nor a text any more, so it stays.
    rcases second place with kept | ⟨missing, _⟩ | ⟨_, open_, _⟩
    · exact .inr (.inl ⟨free, kept.trans made⟩)
    · rw [made] at missing
      cases missing
    · exact absurd made open_
  · -- A changed text may change again, but it stays a text.
    rcases second place with kept | ⟨missing, _⟩ | ⟨_, _, changed⟩
    · exact .inr (.inr ⟨member, open_, content, kept.trans text⟩)
    · rw [text] at missing
      cases missing
    · exact .inr (.inr ⟨member, open_, changed⟩)

/-- Growth within some places is growth within more places. -/
theorem mono {more : List Location} (grown : before.GrowsTo after written)
    (included : written ⊆ more) : before.GrowsTo after more := by
  -- The kinds of change stay the same, only more places are allowed to have them.
  intro place
  rcases grown place with same | made | ⟨member, changed⟩
  · exact .inl same
  · exact .inr (.inl made)
  · exact .inr (.inr ⟨included member, changed⟩)

/-- A directory stays a directory. -/
theorem isDirectory (grown : before.GrowsTo after written) {place : Location}
    (directory : before.isDirectory place = true) : after.isDirectory place = true := by
  -- Only a free place becomes a directory, and only what is none becomes a text.
  simp only [Tree.isDirectory, decide_eq_true_eq] at directory ⊢
  rcases grown place with same | ⟨free, _⟩ | ⟨_, open_, _⟩
  · exact same.trans directory
  · rw [directory] at free
    cases free
  · exact absurd directory open_

/-- Where something stands, something stays. -/
theorem isSome (grown : before.GrowsTo after written) {place : Location}
    (present : (before.get? place).isSome = true) : (after.get? place).isSome = true := by
  -- A place keeps its entry or gets a directory or a text.
  rcases grown place with same | ⟨_, made⟩ | ⟨_, _, content, text⟩
  · rwa [same]
  · simp [made]
  · simp [text]

/-- Outside the given places every entry stays what it is. -/
theorem get?_eq (grown : before.GrowsTo after written) {place : Location} {entry : Entry}
    (present : before.get? place = some entry) (other : place ∉ written) :
    after.get? place = some entry := by
  -- New directories stand where nothing stood before, and so not at this place.
  rcases grown place with same | ⟨free, _⟩ | ⟨member, _⟩
  · exact same.trans present
  · rw [present] at free
    cases free
  · exact absurd member other

end GrowsTo

/-- The root is a directory in every tree. -/
@[simp] theorem get?_root (tree : Tree) : tree.get? [] = some .directory := by
  simp [get?]

/-- Writing a text where no directory stands is growth at that place. -/
theorem growsTo_put_text {tree : Tree} {place : Location} (content : String)
    (open_ : tree.get? place ≠ some .directory) :
    tree.GrowsTo (tree.put place (.text content)) [place] := by
  intro other
  -- The root has a directory, so the text does not go there.
  have below : place ≠ [] := fun root => open_ (by simp [root])
  by_cases same : other = place
  · exact .inr (.inr ⟨by simp [same], same ▸ open_, content, by simp [get?_put below, same]⟩)
  · exact .inl (by simp [get?_put below, same])

end Tree

/-- The place that one step leads to from a given one, by its name alone. -/
def stepFrom (place : Location) (step : String) : Location :=
  if step = "." then place else if step = ".." then place.dropLast else place ++ [step]

/-- The place that steps lead to from a given one, by their names alone. -/
def placeAfter (place : Location) (steps : List String) : Location :=
  steps.foldl stepFrom place

/-- The first of several steps decides where the others start. -/
@[simp] theorem placeAfter_cons (place : Location) (step : String) (rest : List String) :
    placeAfter place (step :: rest) = placeAfter (stepFrom place step) rest :=
  rfl

/-- Steps in two parts lead on from where the first part ends. -/
theorem placeAfter_append (place : Location) (first second : List String) :
    placeAfter place (first ++ second) = placeAfter (placeAfter place first) second :=
  List.foldl_append

/-- The step to the place itself leads nowhere else. -/
@[simp] theorem stepFrom_dot (place : Location) : stepFrom place "." = place := by
  simp [stepFrom]

/-- The step to the parent drops the last name of a place. -/
@[simp] theorem stepFrom_dots (place : Location) : stepFrom place ".." = place.dropLast := by
  simp [stepFrom]

/-- Steps lead where they lead without those that stay where they are. -/
theorem placeAfter_filter (place : Location) (way : List String) :
    placeAfter place (way.filter (· ≠ ".")) = placeAfter place way := by
  induction way generalizing place with
  | nil => rfl
  | cons step rest ih =>
    -- A dot leads to the same place, from which the others go on.
    by_cases dot : step = "."
    · simpa [dot] using ih place
    · simpa [dot] using ih (stepFrom place step)

/-- A step names an entry unless it leads to the place itself or to its parent. -/
theorem isDots_eq_false_iff {step : String} :
    FileSystem.isDots step = false ↔ step ≠ "." ∧ step ≠ ".." := by
  simp [FileSystem.isDots]

/-- A step without dot names an entry. -/
theorem isDots_dotless {step : String} (dotless : '.' ∉ step.toList) :
    FileSystem.isDots step = false :=
  isDots_eq_false_iff.mpr
    ⟨fun same => dotless (by simp [same]), fun same => dotless (by simp [same])⟩

/-- A step that names an entry leads one place down. -/
theorem stepFrom_name {place : Location} {name : String}
    (plain : FileSystem.isDots name = false) : stepFrom place name = place ++ [name] := by
  obtain ⟨dot, dots⟩ := isDots_eq_false_iff.mp plain
  simp [stepFrom, dot, dots]

/-- A step leads to the place itself, to its parent, or to an entry that it names. -/
theorem step_cases (step : String) :
    step = "." ∨ step = ".." ∨ FileSystem.isDots step = false := by
  -- The two names of dots are compared one after the other.
  by_cases dot : step = "."
  · exact .inl dot
  · by_cases dots : step = ".."
    · exact .inr (.inl dots)
    · exact .inr (.inr (isDots_eq_false_iff.mpr ⟨dot, dots⟩))

namespace FileSystem

variable {tree before after : Tree} {written : List Location} {place reached : Location}

/-- A walk takes its first step exactly from a directory, to itself, to its parent, or to an entry
that is there. -/
theorem walk_cons_iff {step : String} {rest : List String} :
    walk tree place (step :: rest) = .ok reached ↔
      tree.isDirectory place = true ∧
      (isDots step = true ∨
        step.utf8ByteSize ≤ maxName ∧ (tree.get? (place ++ [step])).isSome = true) ∧
      walk tree (stepFrom place step) rest = .ok reached := by
  -- The cases are the checks of the walk in the order in which it makes them.
  simp only [walk, stepFrom, isDots]
  cases tree.isDirectory place with
  | false => simp
  | true =>
    by_cases dot : step = "."
    · -- The walk stays where it is at a dot.
      simp [dot]
    · by_cases dots : step = ".."
      · simp [dots]
      · -- A name must not be too long, and something must stand under it.
        by_cases long : maxName < step.utf8ByteSize
        · simp [dot, dots, long, Nat.not_le.mpr long]
        · cases tree.get? (place ++ [step]) with
          | none => simp [dot, dots, long]
          | some entry => simp [dot, dots, long, Nat.not_lt.mp long]

/-- A walk that succeeds ends where the names of its steps lead. -/
theorem walk_place {steps : List String} (walked : walk tree place steps = .ok reached) :
    reached = placeAfter place steps := by
  -- The checks on the way can stop a walk, but they never turn it elsewhere.
  induction steps generalizing place with
  | nil =>
    cases walked
    rfl
  | cons step rest ih => exact ih (walk_cons_iff.mp walked).2.2

/-- A walk that succeeds in a tree succeeds in every tree that it grows to. -/
theorem walk_grows (grown : before.GrowsTo after written) {steps : List String}
    (walked : walk before place steps = .ok reached) : walk after place steps = .ok reached := by
  -- Directories on the way are still there, and so is whatever stands at the end.
  induction steps generalizing place with
  | nil => exact walked
  | cons step rest ih =>
    obtain ⟨directory, named, walked⟩ := walk_cons_iff.mp walked
    exact walk_cons_iff.mpr ⟨grown.isDirectory directory,
      named.imp_right fun ⟨short, present⟩ => ⟨short, grown.isSome present⟩, ih walked⟩

/-- A walk continues from the place where its first part ends. -/
theorem walk_append {middle : Location} {first second : List String}
    (walked : walk tree place first = .ok middle)
    (further : walk tree middle second = .ok reached) :
    walk tree place (first ++ second) = .ok reached := by
  -- The checks of the first part are made again, at the same places.
  induction first generalizing place with
  | nil =>
    cases walked
    exact further
  | cons step rest ih =>
    obtain ⟨directory, named, walked⟩ := walk_cons_iff.mp walked
    exact walk_cons_iff.mpr ⟨directory, named, ih walked⟩

/-- A walk along two parts of a way ends where the walk along the second part does. -/
theorem walk_append_iff {tree : Tree} {place reached : Location} {first second : List String} :
    walk tree place (first ++ second) = .ok reached ↔
      ∃ middle, walk tree place first = .ok middle ∧ walk tree middle second = .ok reached := by
  constructor
  · intro walked
    -- The way is cut behind the steps of the first part.
    induction first generalizing place with
    | nil => exact ⟨place, rfl, walked⟩
    | cons step first ih =>
      obtain ⟨directory, named, later⟩ := walk_cons_iff.mp walked
      obtain ⟨middle, before, after⟩ := ih later
      exact ⟨middle, walk_cons_iff.mpr ⟨directory, named, before⟩, after⟩
  · rintro ⟨middle, before, after⟩
    exact walk_append before after

end FileSystem

end ContentClasses
