import ContentClasses.Json.Reader

/-! What a reading step yields and leaves where it does not fail, whatever a failure says, and what
all results of a step have in common. -/

namespace ContentClasses.Json.Scan

section

variable {α β : Type} {scan : Scan α} {text : List Char}

/-- What a step yields and the text that it leaves, or nothing if it fails. -/
def run? (scan : Scan α) (text : List Char) : Option (α × List Char) :=
  match scan text with
  | (.ok value, rest) => some (value, rest)
  | (.error _, _) => none

@[simp] theorem run?_pure (value : α) : (pure value : Scan α).run? text = some (value, text) :=
  rfl

/-- One step after another goes on with the text that the first one leaves. -/
@[simp] theorem run?_bind (scan : Scan α) (next : α → Scan β) :
    (scan >>= next).run? text =
      (scan.run? text).bind fun outcome => (next outcome.1).run? outcome.2 := by
  -- A failed first step fails the whole, and its text does not matter then.
  show (andThen scan next).run? text = _
  unfold run? andThen
  rcases scan text with ⟨_ | _, _⟩ <;> rfl

@[simp] theorem run?_fail (problem : Problem) : (fail problem : Scan α).run? text = none :=
  rfl

@[simp] theorem run?_failHere (problem : Problem) : (failHere problem : Scan α).run? text = none :=
  rfl

@[simp] theorem run?_failNext (problem : Problem) : (failNext problem : Scan α).run? text = none :=
  rfl

@[simp] theorem run?_left : left.run? text = some (text, text) :=
  rfl

@[simp] theorem run?_peek : peek.run? text = some (text.head?, text) :=
  rfl

@[simp] theorem run?_advance : advance.run? text = some ((), text.drop 1) :=
  rfl

@[simp] theorem run?_skipBlank : skipBlank.run? text = some ((), text.dropWhile isBlank) :=
  rfl

@[simp] theorem run?_digits :
    digits.run? text = some (text.takeWhile Char.isDigit, text.dropWhile Char.isDigit) :=
  rfl

@[simp] theorem run?_ite (condition : Prop) [Decidable condition] (first second : Scan α) :
    (if condition then first else second).run? text =
      if condition then first.run? text else second.run? text := by
  split <;> rfl

/-- Where a failure is placed makes no difference to what a step yields. -/
@[simp] theorem run?_settled (scan : Scan α) : scan.settled.run? text = scan.run? text := by
  unfold run? settled
  rcases scan text with ⟨⟨_, _ | _⟩ | _, _⟩ <;> rfl

/-- The body of a container comes before its end. -/
@[simp] theorem run?_enclosed (finish : Scan Unit) (body : Scan α) :
    (enclosed finish body).run? text = (body.run? text).bind fun outcome =>
      (finish.run? outcome.2).map fun closed => (outcome.1, closed.2) := by
  refine (run?_settled _).trans ?_
  simp only [run?, andThen]
  rcases body text with ⟨_ | value, rest⟩
  · rfl
  · -- The end may fail as well, and then the container does.
    simp only [Option.bind_some]
    rcases finish rest with ⟨_ | _, _⟩ <;> rfl

/-- A step that ends with success has yielded its outcome. -/
theorem run?_eq_some_iff {value : α} {rest : List Char} :
    scan.run? text = some (value, rest) ↔ scan text = (.ok value, rest) := by
  unfold run?
  rcases scan text with ⟨_ | _, _⟩ <;> simp

/-- What a step yields is its result, whatever it leaves. -/
theorem exists_run?_iff {value : α} :
    (∃ rest, scan.run? text = some (value, rest)) ↔ (scan text).1 = .ok value := by
  simp only [run?_eq_some_iff, Prod.ext_iff, exists_and_left, exists_eq', and_true]

end

end ContentClasses.Json.Scan
