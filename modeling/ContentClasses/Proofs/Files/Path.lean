import ContentClasses.Files.Path
import ContentClasses.Proofs.Text.Pieces

/-! Joining paths appends their steps. -/

namespace ContentClasses.Path

/-- The steps of a path are its pieces between slashes. -/
theorem steps_eq (path : String) : steps path = (pieces '/' path.toList).map String.ofList :=
  rfl

/-- The empty path has no step. -/
@[simp] theorem steps_empty : steps "" = [] := by
  simp [steps_eq]

/-- A name without slash is its only step. -/
theorem steps_name {name : String} (present : name ≠ "") (plain : '/' ∉ name.toList) :
    steps name = [name] := by
  -- Without a separator there is one piece, and it is the whole name.
  have filled : name.toList ≠ [] := fun empty => present (String.toList_eq_nil_iff.mp empty)
  simp [steps_eq, pieces_plain filled plain]

/-- An ending without slash belongs to the last step of a path. -/
theorem steps_append_name (path : String) {ending : String} (present : ending ≠ "")
    (plain : '/' ∉ ending.toList) :
    ∃ front opening, steps (path ++ ending) = front ++ [opening ++ ending] := by
  -- The last piece between slashes takes the ending on.
  have filled : ending.toList ≠ [] := fun empty => present (String.toList_eq_nil_iff.mp empty)
  obtain ⟨front, opening, cut⟩ := pieces_append_plain path.toList filled plain
  refine ⟨front.map String.ofList, String.ofList opening, ?_⟩
  rw [steps_eq, String.toList_append, cut, List.map_append]
  simp [String.ofList_append]

/-- A name without slash does not start at the root. -/
theorem isAbsolute_name {name : String} (plain : '/' ∉ name.toList) : isAbsolute name = false := by
  -- The first character of the name is not a slash.
  cases letters : name.toList with
  | nil => simp [isAbsolute, letters]
  | cons first rest =>
    rw [letters] at plain
    simp only [isAbsolute, letters, List.head?_cons, decide_eq_false_iff_not, Option.some.injEq]
    exact fun slash => plain (by simp [slash])

/-- A path continued by a relative one has the steps of both. -/
theorem steps_join {left right : String} (relative : isAbsolute right = false) :
    steps (join left right) = steps left ++ steps right := by
  unfold join
  simp only [relative, Bool.false_eq_true, if_false]
  split
  · rename_i closed
    rcases Bool.or_eq_true_iff.mp closed with empty | slash
    · -- Nothing stands before the second path.
      simp [String.isEmpty_iff.mp empty]
    · -- The slash that joins the paths is already there, and no piece follows it in the first.
      have ends : left.toList.getLast? = some '/' := by simpa [endsInSlash] using slash
      obtain ⟨front, letters⟩ := List.getLast?_eq_some_iff.mp ends
      have whole : (left ++ right).toList = front ++ '/' :: right.toList := by simp [letters]
      have alone : left.toList = front ++ '/' :: [] := letters
      rw [steps_eq, steps_eq left, steps_eq right, whole, alone, pieces_append_cons,
        pieces_append_cons]
      simp
  · have whole : (left ++ "/" ++ right).toList = left.toList ++ '/' :: right.toList := by simp
    rw [steps_eq, steps_eq left, steps_eq right, whole, pieces_append_cons, List.map_append]

/-- A path continued by a relative one starts where it started before. -/
theorem isAbsolute_join {left right : String} (relative : isAbsolute right = false) :
    isAbsolute (join left right) = isAbsolute left := by
  unfold join
  simp only [relative, Bool.false_eq_true, if_false]
  -- In front of an empty path there is nothing, and otherwise its first character stays in front.
  cases letters : left.toList with
  | nil =>
    have empty : left = "" := String.toList_eq_nil_iff.mp letters
    subst empty
    simpa [isAbsolute] using relative
  | cons first rest => split <;> simp [isAbsolute, letters]

/-- A step is not empty, and it has no slash. -/
theorem mem_steps {path step : String} (member : step ∈ steps path) :
    step ≠ "" ∧ '/' ∉ step.toList := by
  -- A step is one of the pieces between slashes that are not empty.
  rw [steps_eq] at member
  obtain ⟨piece, cut, rfl⟩ := List.mem_map.mp member
  obtain ⟨filled, plain⟩ := mem_pieces cut
  refine ⟨fun empty => filled ?_, fun slash => ?_⟩
  · simpa using congrArg String.toList empty
  · exact (plain '/' (by simpa using slash)).2 rfl

/-- The components of a path are its steps, apart from those that lead nowhere. -/
theorem components_filter (path : String) :
    (components path).filter (· ≠ ".") = (steps path).filter (· ≠ ".") := by
  unfold components
  cases steps path with
  | nil => rfl
  | cons first rest =>
    -- A dot in front is dropped from absolute paths only, and here from all.
    by_cases dot : first = "." <;> cases isAbsolute path <;> simp [dot]

/-- A component is a step. -/
theorem mem_steps_of_mem_components {path part : String} (member : part ∈ components path) :
    part ∈ steps path := by
  unfold components at member
  split at member
  · cases member
  · rename_i first rest same
    -- What is kept of the steps is among them.
    rw [same]
    split at member
    · exact .tail _ (List.mem_filter.mp member).1
    · rcases List.mem_cons.mp member with rfl | later
      · exact .head _
      · exact .tail _ (List.mem_filter.mp later).1

/-- Steps that were joined by slashes are found again. -/
theorem steps_intercalate {parts : List String}
    (plain : ∀ part ∈ parts, part ≠ "" ∧ '/' ∉ part.toList) :
    steps ("/".intercalate parts) = parts := by
  -- The slashes between the parts are found again, since no part has one.
  have cut : pieces '/' (['/'].intercalate (parts.map String.toList)) =
      parts.map String.toList := by
    refine pieces_intercalate fun letters among => ?_
    obtain ⟨part, member, rfl⟩ := List.mem_map.mp among
    exact (plain part member).imp_left (mt String.toList_eq_nil_iff.mp)
  have whole : ("/".intercalate parts).toList = ['/'].intercalate (parts.map String.toList) :=
    String.toList_intercalate
  rw [steps_eq, whole, cut, List.map_map]
  simp [Function.comp_def]

/-- A path that was made of components has these as its steps. -/
theorem steps_ofComponents (absolute : Bool) {parts : List String}
    (plain : ∀ part ∈ parts, part ≠ "" ∧ '/' ∉ part.toList) :
    steps (ofComponents absolute parts) = parts := by
  have joined := steps_intercalate plain
  cases absolute with
  | false => simpa [ofComponents] using joined
  | true =>
    -- No step stands before the slash at the front.
    have whole : (ofComponents true parts).toList =
        [] ++ '/' :: ("/".intercalate parts).toList := by
      simp [ofComponents]
    rw [steps_eq, whole, pieces_append_cons, pieces_nil, List.nil_append, ← steps_eq, joined]

/-- A path that was made of components starts at the root if it was made to. -/
theorem isAbsolute_ofComponents (absolute : Bool) {parts : List String}
    (plain : ∀ part ∈ parts, part ≠ "" ∧ '/' ∉ part.toList) :
    isAbsolute (ofComponents absolute parts) = absolute := by
  -- With a slash in front, whatever follows does not matter.
  cases absolute with
  | true => simp [ofComponents, isAbsolute]
  | false =>
    -- Without a slash at the front the path begins as its first component does.
    cases parts with
    | nil => simp [ofComponents, isAbsolute]
    | cons first rest =>
      obtain ⟨filled, slashless⟩ := plain first (.head _)
      have relative := isAbsolute_name slashless
      have same : isAbsolute (ofComponents false (first :: rest)) = isAbsolute first := by
        cases letters : first.toList with
        | nil => exact absurd (String.toList_eq_nil_iff.mp letters) filled
        | cons letter others =>
          cases rest <;> simp [ofComponents, isAbsolute, String.intercalate_cons_cons, letters]
      rw [same, relative]

end ContentClasses.Path
