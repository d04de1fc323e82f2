import ContentClasses.Proofs.Files.Operations
import ContentClasses.Proofs.Naming.Identifier

/-! Paths that lead from every directory to a place within it. -/

namespace ContentClasses.Path

/-- Whether steps that start so many places below another place never lead above that one. -/
def staysBelow : (depth : Nat) → List String → Bool
  | _, [] => true
  | depth, step :: rest =>
    if step = "." then staysBelow depth rest
    else if step = ".." then decide (0 < depth) && staysBelow (depth - 1) rest
    else staysBelow (depth + 1) rest

/-- A path is confined if it does not start at the root and never leads above where it starts. -/
def Confined (path : String) : Prop :=
  isAbsolute path = false ∧ staysBelow 0 (steps path) = true

instance (path : String) : Decidable (Confined path) :=
  inferInstanceAs (Decidable (_ ∧ _))

variable {name path : String} {way : List String} {inner place : Location}

/-- A step to the place itself changes no depth. -/
@[simp] theorem staysBelow_dot (depth : Nat) (rest : List String) :
    staysBelow depth ("." :: rest) = staysBelow depth rest := by
  simp [staysBelow]

/-- A step up needs a step down before it. -/
@[simp] theorem staysBelow_dots (depth : Nat) (rest : List String) :
    staysBelow depth (".." :: rest) = (decide (0 < depth) && staysBelow (depth - 1) rest) := by
  simp [staysBelow]

/-- A step that names an entry allows one more step up. -/
theorem staysBelow_name {step : String} (plain : FileSystem.isDots step = false) (depth : Nat)
    (rest : List String) : staysBelow depth (step :: rest) = staysBelow (depth + 1) rest := by
  obtain ⟨dot, dots⟩ := isDots_eq_false_iff.mp plain
  simp [staysBelow, dot, dots]

/-- The first part of steps that stay below a place stays below it. -/
theorem staysBelow_of_append {depth : Nat} {more : List String}
    (stays : staysBelow depth (way ++ more) = true) : staysBelow depth way = true := by
  -- The same steps are counted, from the same depth on.
  induction way generalizing depth with
  | nil => rfl
  | cons step rest ih =>
    rw [List.cons_append] at stays
    rcases step_cases step with rfl | rfl | plain
    · simpa using ih (by simpa using stays)
    · rw [staysBelow_dots, Bool.and_eq_true] at stays ⊢
      exact ⟨stays.1, ih stays.2⟩
    · rw [staysBelow_name plain] at stays ⊢
      exact ih stays

/-- Steps that stay below a place lead to a place within it. -/
theorem prefix_placeAfter (base inner : Location) (stays : staysBelow inner.length way = true) :
    base <+: placeAfter (base ++ inner) way := by
  -- What the steps have gone down so far is what they may go up again.
  induction way generalizing inner with
  | nil => exact List.prefix_append base inner
  | cons step rest ih =>
    rw [placeAfter_cons]
    -- A dot changes nothing, two dots take one name away, and any other step adds one.
    rcases step_cases step with rfl | rfl | plain
    · simpa using ih inner (by simpa using stays)
    · rw [staysBelow_dots, Bool.and_eq_true, decide_eq_true_eq] at stays
      have filled : inner ≠ [] := List.ne_nil_of_length_pos stays.1
      rw [stepFrom_dots, List.dropLast_append_of_ne_nil filled]
      exact ih _ (by simpa using stays.2)
    · rw [staysBelow_name plain] at stays
      rw [stepFrom_name plain, List.append_assoc]
      exact ih _ (by simpa using stays)

/-- Steps lead to no name that is neither in their place nor among them. -/
theorem not_mem_placeAfter (absent : name ∉ place) (foreign : name ∉ way) :
    name ∉ placeAfter place way := by
  -- No step adds the name, because none of them is the name.
  induction way generalizing place with
  | nil => exact absent
  | cons step rest ih =>
    simp only [List.mem_cons, not_or] at foreign
    rw [placeAfter_cons]
    refine ih ?_ foreign.2
    rcases step_cases step with rfl | rfl | plain
    · simpa using absent
    · rw [stepFrom_dots]
      exact fun member => absent (List.mem_of_mem_dropLast member)
    · simp [stepFrom_name plain, absent, foreign.1]

/-- Steps that do not stay below a place lead out of it for good if they do not name it. -/
theorem not_mem_placeAfter_leaving (inner : Location) (leaves : staysBelow inner.length way = false)
    (absent : name ∉ inner) (foreign : name ∉ way) : name ∉ placeAfter (name :: inner) way := by
  -- The step up from the place itself is the one that drops its name.
  induction way generalizing inner with
  | nil => simp [staysBelow] at leaves
  | cons step rest ih =>
    simp only [List.mem_cons, not_or] at foreign
    rw [placeAfter_cons]
    -- Only two dots can bring the way to its end inside the place.
    rcases step_cases step with rfl | rfl | plain
    · simpa using ih inner (by simpa using leaves) absent foreign.2
    · rw [stepFrom_dots]
      cases inner with
      | nil => exact not_mem_placeAfter (by simp) foreign.2
      | cons first others =>
        exact ih _ (by simpa using leaves)
          (fun member => absent (List.mem_of_mem_dropLast member)) foreign.2
    · rw [staysBelow_name plain] at leaves
      rw [stepFrom_name plain, List.cons_append]
      exact ih _ (by simpa using leaves) (by simp [absent, foreign.1]) foreign.2

/-- An alphanumeric name is a relative path of one step that names an entry. -/
theorem steps_alphanumeric (given : IsAlphanumeric name) :
    isAbsolute name = false ∧ steps name = [name] ∧ FileSystem.isDots name = false := by
  -- Neither a slash nor a dot is a letter or a digit.
  have plain : '/' ∉ name.toList := fun slash => absurd (given.2 '/' slash) (by decide)
  have dotless : '.' ∉ name.toList := fun dot => absurd (given.2 '.' dot) (by decide)
  exact ⟨isAbsolute_name plain, steps_name given.1 plain, isDots_dotless dotless⟩

/-- The confined paths are exactly those that lead from every directory to a place within it. -/
theorem confined_iff :
    Confined path ↔ ∀ (files : FileSystem) (directory : String),
      files.placeOf directory <+: files.placeOf (join directory path) := by
  -- One direction is the run of the steps, the other one takes a directory of its own.
  constructor
  · rintro ⟨relative, stays⟩ files directory
    rw [files.placeOf_join directory relative]
    simpa using prefix_placeAfter (files.placeOf directory) [] stays
  · intro within
    -- A directory under a name that the path does not know is left for good.
    have letter : IsAlphanumeric "d" := ⟨by decide, by simp⟩
    obtain ⟨name, foreign, given⟩ : ∃ name, name ∉ steps path ∧ IsAlphanumeric name :=
      ⟨_, firstFree_not_mem "d" (steps path), letter.firstFree (steps path)⟩
    obtain ⟨relative, single, plain⟩ := steps_alphanumeric given
    have here : ({} : FileSystem).placeOf name = [name] := by
      rw [FileSystem.placeOf, single, placeAfter_cons, stepFrom_name plain]
      simp [FileSystem.startOf, relative, placeAfter]
    have inside : name ∈ ({} : FileSystem).placeOf (join name path) :=
      (here ▸ within {} name).subset (by simp)
    -- A path from the root leaves the directory at once, another one when it steps out of it.
    cases absolute : isAbsolute path with
    | true =>
      rw [FileSystem.placeOf_join_absolute {} name absolute] at inside
      exact absurd inside (not_mem_placeAfter (by simp) foreign)
    | false =>
      refine ⟨absolute, Decidable.byContradiction fun leaves => ?_⟩
      rw [FileSystem.placeOf_join {} name absolute, here] at inside
      exact absurd inside
        (not_mem_placeAfter_leaving [] (by simpa using leaves) (by simp) foreign)

/-- A confined path whose last step names an entry leads to an entry below every directory. -/
theorem Confined.placeOf_join {front : List String} (confined : Confined path)
    (last : steps path = front ++ [name]) (plain : FileSystem.isDots name = false)
    (files : FileSystem) (directory : String) :
    ∃ between, files.placeOf (join directory path) =
      files.placeOf directory ++ between ++ [name] := by
  -- The steps before the last one stay within the directory as well.
  obtain ⟨relative, stays⟩ := confined
  rw [last] at stays
  obtain ⟨between, reached⟩ := prefix_placeAfter (files.placeOf directory) []
    (staysBelow_of_append stays)
  refine ⟨between, ?_⟩
  rw [files.placeOf_join directory relative, last, placeAfter_append, placeAfter_cons,
    stepFrom_name plain, reached, List.append_nil]
  rfl

end ContentClasses.Path
