import ContentClasses.Proofs.Toml.Strings
import ContentClasses.Toml.Value

/-! Written texts and lists of them are read back as values. -/

namespace ContentClasses.Toml

open Scan

/-- A character that begins neither a blank nor a comment nor the end of a line. -/
structure IsToken (c : Char) : Prop where
  blank : isBlank c = false
  hash : c ≠ '#'
  feed : c ≠ '\n'
  carriage : c ≠ '\r'

/-- Quotes are tokens. -/
theorem isToken_quote {c : Char} (quote : c = '\x22' ∨ c = '\'') : IsToken c := by
  rcases quote with rfl | rfl <;> exact ⟨by decide, by decide, by decide, by decide⟩

/-- A written text begins with a quote. -/
theorem writtenText_eq_cons (text : List Char) :
    ∃ first others, writtenText text = first :: others ∧ (first = '\x22' ∨ first = '\'') := by
  -- Each way of writing begins with one kind of quote.
  simp only [writtenText]
  repeat' split
  all_goals first
    | exact ⟨'\x22', _, rfl, .inl rfl⟩
    | exact ⟨'\'', _, rfl, .inr rfl⟩

/-- One line of a gap: perhaps a comment, the end of the line, and the blanks of the next one. -/
def gapLine : Scan Unit := do
  let _ ← maybe comment
  newline
  blanks

/-- No line of a gap begins with a token. -/
theorem gapLine_cons {c : Char} (token : IsToken c) (rest : List Char) :
    gapLine (c :: rest) = none := by
  simp [gapLine, comment, token.hash, newline_eq_none token.feed token.carriage]

/-- No gap is there before a token. -/
@[simp] theorem gap_cons {c : Char} (token : IsToken c) (rest : List Char) :
    gap (c :: rest) = some ((), c :: rest) := by
  have none := many_of_none (gapLine_cons token rest)
  show (blanks (c :: rest)).bind (fun outcome => (do let _ ← many gapLine) outcome.2) = _
  simp [token.blank, none]

/-- One end of a line with blanks behind it is passed over before a token. -/
theorem gap_feed {c : Char} (token : IsToken c) (indent : Nat) (rest : List Char) :
    gap ('\n' :: (List.replicate indent ' ' ++ c :: rest)) = some ((), c :: rest) := by
  -- The blanks in front of the token are passed.
  have spaces : (List.replicate indent ' ' ++ c :: rest).dropWhile isBlank = c :: rest :=
    dropWhile_append_of_head (fun space among => by simp [List.eq_of_mem_replicate among, isBlank])
      (by simp [token.blank])
  have feed : isBlank '\n' = false := by decide
  -- The end of the line is one line of the gap, and the token is none.
  have line : gapLine ('\n' :: (List.replicate indent ' ' ++ c :: rest)) =
      some ((), c :: rest) := by
    simp [gapLine, comment, spaces]
  have shorter : (c :: rest).length <
      ('\n' :: (List.replicate indent ' ' ++ c :: rest)).length := by
    simp only [List.length_cons, List.length_append]
    omega
  have lines := (Repeats.next line shorter (.done (gapLine_cons token rest))).many_apply
  show (blanks ('\n' :: (List.replicate indent ' ' ++ c :: rest))).bind
    (fun outcome => (do let _ ← many gapLine) outcome.2) = _
  simp [feed, lines]

/-- The end of an array is no value. -/
theorem valueWithin_close (depth : Nat) (rest : List Char) :
    valueWithin depth (']' :: rest) = none := by
  have scalar : valueWithin.scalar (']' :: rest) = none := rfl
  cases depth with
  | zero => exact scalar
  | succ depth => simpa [valueWithin] using scalar

/-- A written text is read back as a value. -/
theorem valueWithin_writtenText (depth : Nat) (text rest : List Char)
    (double : rest.head? ≠ some '\x22') (single : rest.head? ≠ some '\'') :
    valueWithin depth (writtenText text ++ rest) = some (.string (String.ofList text), rest) := by
  have read := string_writtenText text double single
  obtain ⟨first, others, same, quote⟩ := writtenText_eq_cons text
  rw [same, List.cons_append] at read ⊢
  have scalar : valueWithin.scalar (first :: (others ++ rest)) =
      some (.string (String.ofList text), rest) := by
    rcases quote with rfl | rfl <;> simp [valueWithin.scalar, read]
  -- Quotes open no container, so that the depth does not matter.
  cases depth with
  | zero => exact scalar
  | succ depth => rcases quote with rfl | rfl <;> simpa [valueWithin] using scalar

/-- An item of an array, with the gaps around it. -/
def arrayItem (value : Scan Value) : Scan Value := do
  gap
  let content ← value
  gap
  return content

/-- The end of an array is no item. -/
theorem arrayItem_close {text rest : List Char} (opens : gap text = some ((), ']' :: rest))
    (depth : Nat) : arrayItem (valueWithin depth) text = none := by
  simp [arrayItem, opens, valueWithin_close]

/-- A written text is read back as an item, wherever the gap in front of it ends. -/
theorem arrayItem_writtenText {c : Char} {rest text before : List Char} (token : IsToken c)
    (apart : c ≠ '\x22' ∧ c ≠ '\'') (opens : gap before = some ((), writtenText text ++ c :: rest))
    (depth : Nat) :
    arrayItem (valueWithin depth) before = some (.string (String.ofList text), c :: rest) := by
  have read := valueWithin_writtenText depth text (c :: rest) (by simp [apart.1])
    (by simp [apart.2])
  simp [arrayItem, opens, read, token]

/-- The lines of a list, each with a text in front of a comma. -/
def itemLines (texts : List String) : List Char :=
  texts.flatMap fun text => [' ', ' ', ' ', ' '] ++ writtenText text.toList ++ [',', '\n']

/-- The gap in front of a text on a line of its own. -/
theorem gap_itemLines (text : String) (texts : List String) (rest : List Char) :
    gap ('\n' :: (itemLines (text :: texts) ++ rest)) =
      some ((), writtenText text.toList ++ ',' :: '\n' :: (itemLines texts ++ rest)) := by
  obtain ⟨first, others, same, quote⟩ := writtenText_eq_cons text.toList
  have read := gap_feed (isToken_quote quote) 4 (others ++ ',' :: '\n' :: (itemLines texts ++ rest))
  simpa [itemLines, same, List.replicate] using read

/-- The texts on lines of their own are read back, up to the comma behind the last one. -/
theorem repeats_itemLines (texts : List String) (depth : Nat) (rest : List Char) :
    Repeats (do
        char ','
        arrayItem (valueWithin depth))
      (',' :: '\n' :: (itemLines texts ++ ']' :: rest)) (texts.map .string)
      (',' :: '\n' :: ']' :: rest) := by
  -- A comma is read with the text behind it, so that the last comma stays.
  induction texts with
  | nil =>
    have opens := gap_feed (c := ']') ⟨by decide, by decide, by decide, by decide⟩ 0 rest
    have none := arrayItem_close opens depth
    exact .done (by simpa [itemLines] using none)
  | cons text texts ih =>
    have read := arrayItem_writtenText ⟨by decide, by decide, by decide, by decide⟩
      (by decide) (gap_itemLines text texts (']' :: rest)) depth
    refine .next (by simp [read]) ?_ ih
    simp [itemLines]
    omega

/-- A written list is read back up to its end, after its opening bracket. -/
theorem arrayRest_writtenTexts (texts : List String) (depth : Nat) (rest : List Char) :
    ∃ opened, writtenTexts texts = '[' :: opened ∧
      arrayRest (valueWithin depth) (opened ++ rest) = some (texts.map .string, rest) := by
  have close : IsToken ']' := ⟨by decide, by decide, by decide, by decide⟩
  have whole (value : Scan Value) : arrayRest value = (do
      let items ← maybe (separated (arrayItem value) ',')
      if items.isSome then
        let _ ← maybe (char ',')
      gap
      char ']'
      return items.getD []) := rfl
  -- No text and one text stand on the line of the bracket, and more on lines of their own.
  match texts with
  | [] =>
    have none := arrayItem_close (gap_cons close rest) depth
    exact ⟨[']'], rfl, by simp [whole, separated, none, close]⟩
  | [only] =>
    obtain ⟨first, others, same, quote⟩ := writtenText_eq_cons only.toList
    -- The text of the only item stands right behind the bracket.
    have opens : gap (writtenText only.toList ++ ']' :: rest) =
        some ((), writtenText only.toList ++ ']' :: rest) := by
      rw [same, List.cons_append, gap_cons (isToken_quote quote)]
    have read := arrayItem_writtenText close (by decide) opens depth
    -- No second item follows.
    have last : many (do
        char ','
        arrayItem (valueWithin depth)) (']' :: rest) = some ([], ']' :: rest) :=
      many_of_none (by simp)
    exact ⟨writtenText only.toList ++ [']'], rfl, by simp [whole, separated, read, last, close]⟩
  | first :: second :: others =>
    have read := arrayItem_writtenText ⟨by decide, by decide, by decide, by decide⟩
      (by decide) (gap_itemLines first (second :: others) (']' :: rest)) depth
    -- The items follow one another, each on a line of its own.
    have last := (repeats_itemLines (second :: others) depth rest).many_apply
    have opens := gap_feed close 0 rest
    refine ⟨'\n' :: (itemLines (first :: second :: others) ++ [']']), by
      simp [writtenTexts, itemLines], ?_⟩
    simp only [List.replicate, List.nil_append] at opens
    simp [whole, separated, read, last, opens]

/-- A written list is read back as a value. -/
theorem valueWithin_writtenTexts (texts : List String) (depth : Nat) (rest : List Char) :
    valueWithin (depth + 1) (writtenTexts texts ++ rest) =
      some (.array (texts.map .string), rest) := by
  obtain ⟨opened, same, read⟩ := arrayRest_writtenTexts texts depth rest
  simp [valueWithin, same, read]

end ContentClasses.Toml
