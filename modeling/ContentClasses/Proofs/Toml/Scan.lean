import ContentClasses.Proofs.Text.Pieces
import ContentClasses.Toml.Scan

/-! What the steps that read a TOML text make of it, from the first step to repeated ones. -/

namespace ContentClasses.Toml.Scan

section

variable {α β : Type} {scan : Scan α} {text rest : List Char}

@[simp] theorem pure_apply (value : α) : (pure value : Scan α) text = some (value, text) :=
  rfl

@[simp] theorem failure_apply : (failure : Scan α) text = none :=
  rfl

/-- One step after another goes on with the text that the first one leaves. -/
@[simp] theorem bind_apply (scan : Scan α) (next : α → Scan β) :
    (scan >>= next) text = (scan text).bind fun outcome => next outcome.1 outcome.2 :=
  rfl

@[simp] theorem map_apply (change : α → β) (scan : Scan α) :
    (change <$> scan) text = (scan text).map fun outcome => (change outcome.1, outcome.2) := by
  show (scan text).bind (fun outcome => some (change outcome.1, outcome.2)) = _
  cases scan text <;> rfl

/-- A second way is tried on the same text if the first one fails. -/
@[simp] theorem orElse_apply (first second : Scan α) :
    (first <|> second) text = (first text).or (second text) := by
  show (first text <|> second text) = _
  cases first text <;> rfl

@[simp] theorem branch_apply (condition : Prop) [Decidable condition] (first second : Scan α) :
    (if condition then first else second) text = if condition then first text else second text := by
  split <;> rfl

@[simp] theorem get_apply : (get : Scan (List Char)) text = some (text, text) :=
  rfl

@[simp] theorem peek_apply : peek text = some (text.head?, text) :=
  rfl

@[simp] theorem next_cons (c : Char) : next (c :: rest) = some (c, rest) :=
  rfl

@[simp] theorem run_apply (kind : Char → Bool) :
    run kind text = some (text.takeWhile kind, text.dropWhile kind) :=
  rfl

@[simp] theorem blanks_apply : blanks text = some ((), text.dropWhile isBlank) :=
  rfl

@[simp] theorem satisfying_cons (kind : Char → Bool) (c : Char) :
    satisfying kind (c :: rest) = if kind c = true then some (c, rest) else none := by
  simp [satisfying]

/-- One given character is read if it comes. -/
@[simp] theorem char_cons (expected c : Char) :
    char expected (c :: rest) = if c = expected then some ((), rest) else none := by
  by_cases same : c = expected <;> simp [char, same]

@[simp] theorem char_nil (expected : Char) : char expected [] = none :=
  rfl

/-- A given word is read where it stands. -/
@[simp] theorem word_append (letters rest : List Char) :
    word letters (letters ++ rest) = some ((), rest) := by
  induction letters with
  | nil => rfl
  | cons c letters ih => simp [word, ih]

/-- As many digits as are wanted are read where they stand. -/
theorem exactly_append {kind : Char → Bool} {digits : List Char} (all : ∀ c ∈ digits, kind c = true)
    (rest : List Char) : exactly kind digits.length (digits ++ rest) = some (digits, rest) := by
  -- The number of digits goes down with the digits themselves.
  induction digits with
  | nil => rfl
  | cons c digits ih =>
    have others := ih fun other among => all other (.tail _ among)
    simp [exactly, all c (.head _), others]

/-- What may come is found or not, without a failure. -/
@[simp] theorem maybe_apply (scan : Scan α) :
    maybe scan text = match scan text with
      | some (value, rest) => some (some value, rest)
      | none => some (none, text) := by
  unfold maybe
  rw [orElse_apply, bind_apply]
  cases scan text <;> rfl

@[simp] theorem newline_cons : newline ('\n' :: rest) = some ((), rest) := by
  simp [newline]

/-- Nothing but a line feed or a carriage return begins the end of a line. -/
theorem newline_eq_none {c : Char} (feed : c ≠ '\n') (carriage : c ≠ '\r') :
    newline (c :: rest) = none := by
  simp [newline, feed, word, carriage]

/-- The things that a step reads one after the other, up to where it fails. -/
inductive Repeats (scan : Scan α) : List Char → List α → List Char → Prop where
  | done {text : List Char} (fails : scan text = none) : Repeats scan text [] text
  | next {text middle rest : List Char} {first : α} {others : List α}
      (reads : scan text = some (first, middle)) (shorter : middle.length < text.length)
      (later : Repeats scan middle others rest) : Repeats scan text (first :: others) rest

/-- What a step reads again and again is read by its repetition. -/
theorem Repeats.repeated_apply {items : List α} (repeats : Repeats scan text items rest)
    {budget : Nat} (enough : text.length ≤ budget) :
    repeated scan budget text = some (items, rest) := by
  -- Each step takes at least one character, so that the budget lasts to the end.
  induction repeats generalizing budget with
  | done fails => cases budget <;> simp [repeated, fails]
  | next reads shorter _ ih =>
    cases budget with
    | zero => omega
    | succ budget => simp [repeated, reads, ih (show _ ≤ budget by omega)]

/-- What a step reads again and again is read as often as it comes. -/
theorem Repeats.many_apply {items : List α} (repeats : Repeats scan text items rest) :
    many scan text = some (items, rest) := by
  simp [many, repeats.repeated_apply]

/-- What does not come is read as nothing. -/
theorem many_of_none (fails : scan text = none) : many scan text = some ([], text) :=
  (Repeats.done fails).many_apply

end

end ContentClasses.Toml.Scan
