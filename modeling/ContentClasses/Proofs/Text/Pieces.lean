/-! The pieces of a text between separators, which paths, packages and codenames are cut into, and
the front of a text up to a character of another kind, which names and numbers are read from. -/

namespace ContentClasses

variable {separator : Char}

/-- The pieces of a text between separators, without the empty ones. -/
def pieces (separator : Char) (text : List Char) : List (List Char) :=
  (text.splitOn separator).filter fun piece => !piece.isEmpty

/-- The empty text has no piece. -/
@[simp] theorem pieces_nil : pieces separator [] = [] := by
  simp [pieces, List.splitOn_nil]

/-- A separator cuts a text into two parts with pieces of their own. -/
theorem pieces_append_cons (left right : List Char) :
    pieces separator (left ++ separator :: right) =
      pieces separator left ++ pieces separator right := by
  simp [pieces, List.splitOn_append_cons_self]

/-- A text without separator is its only piece. -/
theorem pieces_plain {text : List Char} (present : text ≠ []) (plain : separator ∉ text) :
    pieces separator text = [text] := by
  simp [pieces, List.splitOn_eq_singleton plain, present]

/-- An ending without separator belongs to the last piece of a text. -/
theorem pieces_append_plain (text : List Char) {ending : List Char} (present : ending ≠ [])
    (plain : separator ∉ ending) :
    ∃ front opening, pieces separator (text ++ ending) = front ++ [opening ++ ending] := by
  -- What stands behind the last separator of the text, if there is one, opens the last piece.
  by_cases cut : separator ∈ text
  · obtain ⟨opening, before, letters, last⟩ :=
      List.eq_append_cons_of_mem (List.mem_reverse.mpr cut)
    have whole : text = before.reverse ++ separator :: opening.reverse := by
      simpa using congrArg List.reverse letters
    have alone : pieces separator (opening.reverse ++ ending) = [opening.reverse ++ ending] :=
      pieces_plain (by simp [present]) (by simp [last, plain])
    refine ⟨pieces separator before.reverse, opening.reverse, ?_⟩
    rw [whole, List.append_assoc, List.cons_append, pieces_append_cons, alone]
  · exact ⟨[], text, pieces_plain (by simp [present]) (by simp [cut, plain])⟩

/-- Behind the first of several texts that are joined, each stands behind a separator. -/
theorem intercalate_cons (first : List Char) (rest : List (List Char)) :
    [separator].intercalate (first :: rest) = first ++ rest.flatMap (separator :: ·) := by
  induction rest generalizing first with
  | nil => simp
  | cons second rest ih => simp [List.intercalate_cons_cons, ih]

/-- Texts without separator that are joined by separators are the pieces of the whole, if none is
empty. -/
theorem pieces_intercalate {words : List (List Char)}
    (plain : ∀ word ∈ words, word ≠ [] ∧ separator ∉ word) :
    pieces separator ([separator].intercalate words) = words := by
  cases words with
  | nil => simp
  | cons first rest =>
    -- Joined texts are cut where they were joined, and no empty one is there to be dropped.
    rw [pieces,
      List.splitOn_intercalate separator (fun word among => (plain word among).2) (by simp)]
    exact List.filter_eq_self.mpr fun word among => by simpa using (plain word among).1

/-- Between separators stand characters of the text other than the separator. -/
theorem mem_of_mem_splitOn {text piece : List Char} {c : Char}
    (member : piece ∈ text.splitOn separator) (inside : c ∈ piece) : c ∈ text ∧ c ≠ separator := by
  -- The first character of a text is a separator itself, or it opens the first piece.
  induction text generalizing piece with
  | nil => simp_all [List.splitOn_nil]
  | cons first rest ih =>
    rw [List.splitOn_cons_eq_if_modifyHead] at member
    split at member
    · rcases List.mem_cons.mp member with rfl | member
      · cases inside
      · exact (ih member inside).imp_left (List.mem_cons_of_mem first)
    · rename_i other
      cases later : rest.splitOn separator with
      -- A text has at least one piece.
      | nil => exact absurd later (List.splitOn_ne_nil _ _)
      | cons head tail =>
        rw [later] at member ih
        rcases List.mem_cons.mp member with rfl | member
        · rcases List.mem_cons.mp inside with rfl | inside
          · exact ⟨by simp, by simpa using other⟩
          · exact (ih (by simp) inside).imp_left (List.mem_cons_of_mem first)
        · exact (ih (by simp [member]) inside).imp_left (List.mem_cons_of_mem first)

/-- A piece is not empty, and it is made of characters of the text other than the separator. -/
theorem mem_pieces {text piece : List Char} (member : piece ∈ pieces separator text) :
    piece ≠ [] ∧ ∀ c ∈ piece, c ∈ text ∧ c ≠ separator := by
  obtain ⟨between, filled⟩ := List.mem_filter.mp member
  exact ⟨by simpa using filled, fun c inside => mem_of_mem_splitOn between inside⟩

/-- What stands between separators is, put together, the text without them. -/
theorem flatten_splitOn (text : List Char) :
    (text.splitOn separator).flatten = text.filter (· ≠ separator) := by
  -- A separator opens a piece of its own, and any other character goes in front of the first one.
  induction text with
  | nil => simp [List.splitOn_nil]
  | cons c rest ih =>
    rw [List.splitOn_cons_eq_if_modifyHead]
    by_cases cut : c = separator
    · simp [cut, ih]
    · cases between : rest.splitOn separator with
      | nil => exact absurd between (List.splitOn_ne_nil _ _)
      | cons head tail =>
        rw [between, List.flatten_cons] at ih
        simpa [cut] using ih

/-- The pieces of a text are, put together, the text without separators. -/
theorem flatten_pieces (text : List Char) :
    (pieces separator text).flatten = text.filter (· ≠ separator) := by
  rw [pieces, List.flatten_filter_not_isEmpty, flatten_splitOn]

section

variable {kind : Char → Bool} {front rest : List Char}

/-- The front of a text goes up to the first character of another kind. -/
theorem takeWhile_append_of_head (all : ∀ c ∈ front, kind c = true)
    (stops : ∀ c ∈ rest.head?, kind c = false) : (front ++ rest).takeWhile kind = front := by
  -- All of the front is taken, and nothing of the rest.
  rw [List.takeWhile_append_of_pos all]
  cases rest with
  | nil => simp
  | cons c rest => simp [stops c (by simp)]

/-- What is left of a text behind its front begins with a character of another kind. -/
theorem dropWhile_append_of_head (all : ∀ c ∈ front, kind c = true)
    (stops : ∀ c ∈ rest.head?, kind c = false) : (front ++ rest).dropWhile kind = rest := by
  -- All of the front is dropped, and nothing of the rest.
  rw [List.dropWhile_append_of_pos all]
  cases rest with
  | nil => simp
  | cons c rest => simp [stops c (by simp)]

end

end ContentClasses
