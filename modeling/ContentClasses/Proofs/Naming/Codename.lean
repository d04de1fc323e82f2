import ContentClasses.Naming.Codename

/-! A snake-case codename is the sequence of its words, none of them empty. -/

namespace ContentClasses

/-- Whether a piece of a codename is a word of a snake-case codename. -/
def IsSnakeWord (piece : List Char) : Prop :=
  piece ≠ [] ∧ ∀ c ∈ piece, isSnakeChar c = true

/-- Scanning a text accepts it exactly if its pieces between underscores are words, the first of
them perhaps the empty rest of a word that has begun. -/
theorem finishesSnakeCase_iff {inWord : Bool} {text head : List Char} {tail : List (List Char)}
    (cut : text.splitOn '_' = head :: tail) :
    finishesSnakeCase inWord text = true ↔
      (inWord = true ∨ head ≠ []) ∧ (∀ c ∈ head, isSnakeChar c = true) ∧
        ∀ piece ∈ tail, IsSnakeWord piece := by
  -- An underscore closes the first piece, and any other character belongs to it.
  induction text generalizing inWord head tail with
  | nil =>
    simp only [List.splitOn_nil, List.cons.injEq] at cut
    obtain ⟨rfl, rfl⟩ := cut
    simp [finishesSnakeCase]
  | cons c rest ih =>
    cases pieces : rest.splitOn '_' with
    | nil => exact absurd pieces (List.splitOn_ne_nil _ _)
    | cons next others =>
      rw [List.splitOn_cons_eq_if_modifyHead, pieces] at cut
      by_cases underscore : c = '_'
      · simp only [underscore, beq_self_eq_true, if_true, List.cons.injEq] at cut
        obtain ⟨rfl, rfl⟩ := cut
        simp [finishesSnakeCase, underscore, ih pieces, IsSnakeWord, and_assoc]
      · simp only [beq_iff_eq, underscore, if_false, List.modifyHead_cons, List.cons.injEq] at cut
        obtain ⟨rfl, rfl⟩ := cut
        simp [finishesSnakeCase, underscore, ih pieces, and_assoc]

/-- A codename is snake case exactly if all of its pieces between underscores are words. -/
theorem isSnakeCase_iff_pieces (codename : String) :
    isSnakeCase codename = true ↔ ∀ piece ∈ codename.toList.splitOn '_', IsSnakeWord piece := by
  -- The scan starts outside a word, so the first piece has to be a whole one.
  cases pieces : codename.toList.splitOn '_' with
  | nil => exact absurd pieces (List.splitOn_ne_nil _ _)
  | cons head tail =>
    rw [isSnakeCase, finishesSnakeCase_iff pieces]
    simp [IsSnakeWord, and_assoc]

/-- The words of a snake-case codename are all of its pieces. -/
theorem codenameWords_of_isSnakeCase {codename : String} (snake : isSnakeCase codename = true) :
    codenameWords codename.toList = codename.toList.splitOn '_' := by
  -- None of the pieces is empty, so none is dropped.
  refine List.filter_eq_self.mpr fun piece member => ?_
  simpa using ((isSnakeCase_iff_pieces codename).mp snake piece member).1

/-- Joined by underscores, the words of a snake-case codename are the codename. -/
theorem intercalate_codenameWords {codename : String} (snake : isSnakeCase codename = true) :
    ['_'].intercalate (codenameWords codename.toList) = codename.toList := by
  rw [codenameWords_of_isSnakeCase snake, List.intercalate_splitOn]

/-- Every word of a snake-case codename is made of snake-case characters. -/
theorem isSnakeWord_of_mem {codename : String} (snake : isSnakeCase codename = true)
    {word : List Char} (member : word ∈ codenameWords codename.toList) : IsSnakeWord word := by
  rw [codenameWords_of_isSnakeCase snake] at member
  exact (isSnakeCase_iff_pieces codename).mp snake word member

/-- A snake-case codename has a word. -/
theorem codenameWords_ne_nil {codename : String} (snake : isSnakeCase codename = true) :
    codenameWords codename.toList ≠ [] := by
  rw [codenameWords_of_isSnakeCase snake]
  exact List.splitOn_ne_nil _ _

end ContentClasses
