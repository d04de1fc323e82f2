import ContentClasses.Json.Skip
import ContentClasses.Proofs.Json.Numbers
import ContentClasses.Proofs.Json.Strings

/-! A value that nobody asked for is passed over up to its last character, whatever it says and
however deeply it is nested. -/

namespace ContentClasses.Json

open Scan

/-- The characters that the texts of a form begin with. -/
def Form.StartsWith : Form → Char → Prop
  | .null, c => c = 'n'
  | .boolean value, c => c = if value then 't' else 'f'
  | .number _, c => c = '-' ∨ c.isDigit = true
  | .string _, c => c = '\x22'
  | .list _, c => c = '['
  | .object _, c => c = '\x7b'

/-- A number begins with a character that begins no other value and no blank. -/
theorem numeral_apart {c : Char} (numeral : c = '-' ∨ c.isDigit = true) :
    c ∉ ['n', 't', 'f', '\x22', '[', '\x7b', ',', ']', '\x7d', ' ', '\n', '\t', '\r'] := by
  intro among
  -- A minus is compared with each of them, and so is a digit by its class.
  rcases numeral with rfl | digit
  · revert among
    decide
  · simp only [List.mem_cons, List.not_mem_nil, or_false] at among
    rcases among with
      rfl | rfl | rfl | rfl | rfl | rfl | rfl | rfl | rfl | rfl | rfl | rfl | rfl <;>
      revert digit <;> decide

section

variable {form : Form} {word rest gap : List Char}

/-- A value begins as its form says. -/
theorem Written.exists_cons (written : Written form word) :
    ∃ first others, word = first :: others ∧ form.StartsWith first := by
  -- Each kind of value has its own first character, and only a number has several.
  cases written with
  | number numeric => exact numeric.exists_cons
  | string written =>
    obtain ⟨_⟩ := written
    exact ⟨_, _, rfl, rfl⟩
  | _ => exact ⟨_, _, rfl, rfl⟩

/-- No value begins with a blank, or with what goes on or ends in a container. -/
theorem Form.StartsWith.apart {first : Char} (start : form.StartsWith first) :
    isBlank first = false ∧ first ≠ ',' ∧ first ≠ ']' ∧ first ≠ '\x7d' := by
  -- A digit or a minus is none of these, and neither is another beginning.
  cases form with
  | number _ =>
    have apart := numeral_apart start
    simp_all [isBlank]
  | boolean value => cases value <;> (rw [start]; decide)
  | _ => rw [start]; decide

/-- The first character of a value shows whether it is nothing, a string, a list or an object. -/
theorem Form.StartsWith.shows {first : Char} (start : form.StartsWith first) :
    (first = 'n' ↔ form = .null) ∧ (first = '\x22' ↔ ∃ content, form = .string content) ∧
      (first = '[' ↔ ∃ items, form = .list items) ∧
      (first = '\x7b' ↔ ∃ members, form = .object members) := by
  -- A number, a truth value and nothing else begin unlike the four.
  cases form with
  | number _ =>
    have apart := numeral_apart start
    simp_all
  | boolean value => cases value <;> simp_all [Form.StartsWith]
  | _ => simp_all [Form.StartsWith]

/-- Blanks before a value are passed over, and no more. -/
theorem Written.dropWhile_append (written : Written form word) (blank : Blank gap)
    (rest : List Char) : (gap ++ (word ++ rest)).dropWhile isBlank = word ++ rest := by
  obtain ⟨first, others, rfl, start⟩ := written.exists_cons
  rw [blank.dropWhile_append]
  simp [start.apart]

/-- A key begins with a quote. -/
theorem WrittenMember.exists_cons {member : Option String × Form}
    (written : WrittenMember member word) : ∃ others, word = '\x22' :: others := by
  obtain ⟨named, _, _, _⟩ := written
  obtain ⟨_⟩ := named
  exact ⟨_, rfl⟩

/-- What the items of a list leave to come may follow a value. -/
theorem WrittenItems.endsValue {items : List Form} {text : List Char}
    (written : WrittenItems items text) (rest : List Char) : EndsValue (text ++ ']' :: rest) := by
  -- The bracket ends a value, and so does a comma.
  cases written with
  | done blank => exact .blank_append blank (by simp)
  | next blank _ _ _ =>
    rw [List.append_assoc]
    exact .blank_append blank (by simp)

/-- What the members of an object leave to come may follow a value. -/
theorem WrittenMembers.endsValue {members : List (Option String × Form)} {text : List Char}
    (written : WrittenMembers members text) (rest : List Char) :
    EndsValue (text ++ '\x7d' :: rest) := by
  -- The brace ends a value, and so does a comma.
  cases written with
  | done blank => exact .blank_append blank (by simp)
  | next blank _ _ _ =>
    rw [List.append_assoc]
    exact .blank_append blank (by simp)

end

/-- What is passed over of a container after its opening or a comma: an item, or a key and its
value. -/
def skipEntry : Frame → (budget : Nat) → List Frame → Scan Unit
  | .list, budget, frames => skipWithin budget frames
  | .object, budget, frames => do
    skipKey
    skipWithin budget frames

/-- What is left to pass over after the end of a container or a value in open ones. -/
def skipPending (budget : Nat) : List Frame → Scan Unit
  | [] => pure ()
  | frame :: frames => skipEntry frame budget (frame :: frames)

/-- What is left to pass over after a value in open containers. -/
def skipAfter (budget : Nat) (frames : List Frame) : Scan Unit := do
  skipPending budget (← skipEnds true frames)

/-- A round that opens no container has passed over a value. -/
theorem run?_skipWithin_value {budget : Nat} {frames : List Frame} {text rest : List Char}
    (start : skipStart.run? text = some (none, rest)) :
    (skipWithin (budget + 1) frames).run? text = (skipAfter budget frames).run? rest := by
  -- The first round reads the value, and the rest of it is what comes after one.
  simp only [skipWithin, run?_bind, start, Option.bind_some, skipAfter]
  congr 1
  funext pending
  rcases pending with ⟨_ | ⟨_ | _, _⟩, _⟩ <;> rfl

/-- A round that opens a container goes on inside it. -/
theorem run?_skipWithin_open {budget : Nat} {frames : List Frame} {frame : Frame}
    {text rest : List Char} (start : skipStart.run? text = some (some frame, rest)) :
    (skipWithin (budget + 1) frames).run? text =
      (do skipPending budget (← skipEnds false (frame :: frames)) : Scan Unit).run? rest := by
  -- The container is opened, and the round goes on with what is inside.
  simp only [skipWithin, run?_bind, start, Option.bind_some]
  congr 1
  funext pending
  rcases pending with ⟨_ | ⟨_ | _, _⟩, _⟩ <;> rfl

/-- Whether the rounds on a text pass over it as a value, in at most as many rounds as it has
characters. -/
def PassesOver (start : (budget : Nat) → List Frame → Scan Unit) (text : List Char) : Prop :=
  ∃ used ≤ text.length, ∀ budget frames gap rest, Blank gap → EndsValue rest →
    (start (used + budget) frames).run? (gap ++ (text ++ rest)) =
      (skipAfter budget frames).run? rest

/-- Whether the rounds after a value in a container pass over the rest of the container. -/
def PassesEnd (frame : Frame) (text : List Char) : Prop :=
  ∃ used ≤ text.length, ∀ budget frames rest,
    (skipAfter (used + budget) (frame :: frames)).run? (text ++ frame.close :: rest) =
      (skipAfter budget frames).run? rest

section

variable {text word before after gap rest : List Char}

/-- A value that is no container takes one round. -/
theorem passesOver_of_skipStart (filled : text ≠ [])
    (start : ∀ gap rest, Blank gap → EndsValue rest →
      skipStart.run? (gap ++ (text ++ rest)) = some (none, rest)) :
    PassesOver skipWithin text := by
  refine ⟨1, List.length_pos_iff.mpr filled, fun budget frames gap rest blank ends => ?_⟩
  rw [Nat.add_comm, run?_skipWithin_value (start gap rest blank ends)]

/-- The character that opens a container. -/
def Frame.opening : Frame → Char
  | .list => '['
  | .object => '\x7b'

/-- The end of a container counts as the end of a value. -/
theorem passesEnd_blank (frame : Frame) (blank : Blank gap) : PassesEnd frame gap := by
  -- No round is used, as the end is read by the round that came before.
  refine ⟨0, Nat.zero_le _, fun budget frames rest => ?_⟩
  have plain : isBlank frame.close = false := by cases frame <;> decide
  have apart : frame.close ≠ ',' := by cases frame <;> decide
  simp [skipAfter, skipEnds, blank.dropWhile_append, plain, apart]

/-- After a comma comes one more entry of the container. -/
theorem passesEnd_comma (frame : Frame) (blankBefore : Blank before) (blankAfter : Blank after)
    (ends : ∀ rest, EndsValue (text ++ frame.close :: rest))
    (head : PassesOver (skipEntry frame) word) (tail : PassesEnd frame text) :
    PassesEnd frame (before ++ ',' :: (after ++ (word ++ text))) := by
  obtain ⟨first, firstFits, passesFirst⟩ := head
  obtain ⟨others, othersFit, passesOthers⟩ := tail
  refine ⟨first + others, ?_, fun budget frames rest => ?_⟩
  · simp only [List.length_append, List.length_cons]
    omega
  · -- The comma belongs to the round before, and the entry takes rounds of its own.
    have comma : isBlank ',' = false := by decide
    have entry := passesFirst (others + budget) (frame :: frames) after _ blankAfter (ends rest)
    rw [Nat.add_assoc, ← passesOthers budget frames rest, ← entry]
    simp [skipAfter, skipEnds, blankBefore.dropWhile_append, comma, skipPending]

/-- The opening of a container is read as such. -/
theorem run?_skipStart_opening (frame : Frame) (blank : Blank gap) (rest : List Char) :
    skipStart.run? (gap ++ frame.opening :: rest) = some (some frame, rest) := by
  cases frame <;>
    simp [skipStart, valueStart, blank.dropWhile_append, Frame.opening, isBlank]

/-- A container without entries is closed at once. -/
theorem passesOver_empty (frame : Frame) (blank : Blank gap) :
    PassesOver skipWithin (frame.opening :: (gap ++ [frame.close])) := by
  refine ⟨1, by simp, fun budget frames outer rest blankOuter _ => ?_⟩
  -- The closing character is found behind the blanks at once.
  have plain : isBlank frame.close = false := by cases frame <;> decide
  rw [Nat.add_comm, List.cons_append, List.append_assoc, List.singleton_append,
    run?_skipWithin_open (run?_skipStart_opening frame blankOuter _)]
  simp [skipEnds, blank.dropWhile_append, plain, skipAfter]

/-- A container with entries is passed over entry by entry. -/
theorem passesOver_container (frame : Frame) (blank : Blank gap)
    (filled : ∃ first others, word = first :: others ∧ isBlank first = false ∧ first ≠ frame.close)
    (ends : ∀ rest, EndsValue (text ++ frame.close :: rest))
    (head : PassesOver (skipEntry frame) word) (tail : PassesEnd frame text) :
    PassesOver skipWithin (frame.opening :: (gap ++ (word ++ (text ++ [frame.close])))) := by
  obtain ⟨first, firstFits, passesFirst⟩ := head
  obtain ⟨others, othersFit, passesOthers⟩ := tail
  refine ⟨first + others + 1, ?_, fun budget frames outer rest blankOuter _ => ?_⟩
  · simp only [List.length_append, List.length_cons]
    omega
  · -- The first character of the first entry does not close the container.
    obtain ⟨opening, letters, rfl, plain, apart⟩ := filled
    have entry := passesFirst (others + budget) (frame :: frames) [] _ blank_nil (ends rest)
    have rounds : first + others + 1 + budget = first + (others + budget) + 1 := by omega
    rw [rounds, ← passesOthers budget frames rest, ← entry, List.cons_append, List.append_assoc,
      List.append_assoc, List.append_assoc, List.singleton_append,
      run?_skipWithin_open (run?_skipStart_opening frame blankOuter _)]
    simp [skipEnds, blank.dropWhile_append, plain, apart, skipPending]

/-- A key and the colon behind it are passed over before the value. -/
theorem passesOver_member {key : Option String} {name : List Char} (named : WrittenString key name)
    (blankBefore : Blank before) (blankAfter : Blank after) (value : PassesOver skipWithin word) :
    PassesOver (skipEntry .object) (name ++ (before ++ ':' :: (after ++ word))) := by
  -- The key takes no round of its own.
  obtain ⟨used, fits, passes⟩ := value
  refine ⟨used, ?_, fun budget frames gap rest blank ends => ?_⟩
  · simp only [List.length_append, List.length_cons]
    omega
  · -- Behind the blanks stand the quote and then the colon.
    have colon : isBlank ':' = false := by decide
    have quote : isBlank '\x22' = false := by decide
    obtain ⟨spelled, rfl, skipped⟩ := named.run?_skipString
    rw [← passes budget frames after rest blankAfter ends]
    simp [skipEntry, skipKey, blank.dropWhile_append, quote, skipped, blankBefore.dropWhile_append,
      colon]

end

section

variable {word gap rest : List Char}

/-- A written string is passed over in one round. -/
theorem WrittenString.passesOver {content : Option String} (written : WrittenString content word) :
    PassesOver skipWithin word := by
  -- Both quotes belong to the string, so it is not empty.
  refine passesOver_of_skipStart ?_ fun gap rest blank ends => ?_
  · obtain ⟨_⟩ := written
    simp
  · obtain ⟨spelled, rfl, skipped⟩ := written.run?_skipString
    simp [skipStart, valueStart, blank.dropWhile_append, isBlank, skipped]

/-- Blanks before a value are passed over with it. -/
theorem run?_skipStart_blank (blank : Blank gap) :
    skipStart.run? (gap ++ rest) = skipStart.run? rest := by
  simp [skipStart, valueStart, blank.dropWhile_append]

/-- A digit begins no other value than a number. -/
theorem run?_skipStart_digit {first : Char} {others : List Char} (digit : first.isDigit = true) :
    skipStart.run? (first :: others) =
      (skipNumber.run? (first :: others)).map fun passed => (none, passed.2) := by
  have apart := numeral_apart (.inr digit)
  have sign : first ≠ '-' := by
    rintro rfl
    revert digit
    decide
  have plain : isBlank first = false := by simp_all [isBlank]
  simp only [List.mem_cons, not_or] at apart
  have passed : (skipNumber.run? (first :: others)).map (fun passed => (none, passed.2)) =
      (skipNumber.run? (first :: others)).bind fun passed =>
        some ((none : Option Frame), passed.2) := Option.map_eq_bind
  -- No other value starts with a digit, so only the branch of the numbers is left.
  rw [passed]
  simp only [skipStart, valueStart, run?_bind]
  simp [plain, apart, digit]

/-- A number is passed over in one round. -/
theorem IsNumber.passesOver (numeric : IsNumber word) : PassesOver skipWithin word := by
  refine passesOver_of_skipStart ?_ fun gap rest blank ends => ?_
  · -- A number has at least one digit, so it is not empty.
    obtain ⟨first, others, rfl, _⟩ := numeric.exists_cons
    simp
  · obtain @⟨sign, whole, places, power, signed, units, fraction, exponent⟩ := numeric
    have skipped := run?_skipNumber units fraction exponent ends
    simp only [List.append_assoc, run?_skipStart_blank blank]
    -- With or without its sign, the digits are passed over together.
    rcases signed with rfl | rfl
    · obtain ⟨first, others, rfl, digit⟩ := units.exists_cons
      rw [List.cons_append] at skipped
      simp [run?_skipStart_digit digit, skipped]
    · have minus : isBlank '-' = false := by decide
      simp [skipStart, valueStart, minus, skipped]

/-- A literal is passed over in one round. -/
theorem passesOver_literal {first : Char} {others : List Char}
    (literal : (first, others) ∈
      [('n', ['u', 'l', 'l']), ('t', ['r', 'u', 'e']), ('f', ['a', 'l', 's', 'e'])]) :
    PassesOver skipWithin (first :: others) := by
  -- The first letter decides which others are wanted.
  refine passesOver_of_skipStart (by simp) fun gap rest blank ends => ?_
  simp only [List.mem_cons, Prod.mk.injEq, List.not_mem_nil, or_false] at literal
  rcases literal with ⟨rfl, rfl⟩ | ⟨rfl, rfl⟩ | ⟨rfl, rfl⟩ <;>
    simp [skipStart, valueStart, blank.dropWhile_append, isBlank, letters]

end

mutual

/-- Every value is passed over. -/
theorem Written.passesOver {form : Form} {word : List Char} (written : Written form word) :
    PassesOver skipWithin word := by
  -- The proof follows the text as it is written, container by container.
  match written with
  | .null | .yes | .no => exact passesOver_literal (by simp)
  | .number numeric => exact numeric.passesOver
  | .string written => exact written.passesOver
  | .emptyList blank => exact passesOver_empty .list blank
  | .list blank head tail =>
    obtain ⟨first, others, rfl, start⟩ := head.exists_cons
    exact passesOver_container .list blank
      ⟨first, others, rfl, start.apart.1, start.apart.2.2.1⟩ tail.endsValue
      head.passesOver tail.passesEnd
  | .emptyObject blank => exact passesOver_empty .object blank
  | .object blank head tail =>
    obtain ⟨others, rfl⟩ := head.exists_cons
    exact passesOver_container .object blank ⟨'\x22', others, rfl, by decide⟩ tail.endsValue
      head.passesOver tail.passesEnd

/-- The rest of every list is passed over. -/
theorem WrittenItems.passesEnd {items : List Form} {text : List Char}
    (written : WrittenItems items text) : PassesEnd .list text := by
  -- An item follows its comma, and the list goes on behind it.
  match written with
  | .done blank => exact passesEnd_blank .list blank
  | .next blankBefore blankAfter head tail =>
    exact passesEnd_comma .list blankBefore blankAfter tail.endsValue head.passesOver tail.passesEnd

/-- Every key is passed over with its value. -/
theorem WrittenMember.passesOver {member : Option String × Form} {text : List Char}
    (written : WrittenMember member text) : PassesOver (skipEntry .object) text := by
  match written with
  | .mk named blankBefore blankAfter value =>
    exact passesOver_member named blankBefore blankAfter value.passesOver

/-- The rest of every object is passed over. -/
theorem WrittenMembers.passesEnd {members : List (Option String × Form)} {text : List Char}
    (written : WrittenMembers members text) : PassesEnd .object text := by
  -- A member follows its comma, and the object goes on behind it.
  match written with
  | .done blank => exact passesEnd_blank .object blank
  | .next blankBefore blankAfter head tail =>
    exact passesEnd_comma .object blankBefore blankAfter tail.endsValue head.passesOver
      tail.passesEnd

end

/-- A value that nobody asked for is passed over up to its last character. -/
theorem Written.run?_skipValue {form : Form} {word gap rest : List Char}
    (written : Written form word) (blank : Blank gap) (ends : EndsValue rest) :
    skipValue.run? (gap ++ (word ++ rest)) = some ((), rest) := by
  obtain ⟨used, fits, passes⟩ := written.passesOver
  -- The text has more characters than rounds are used.
  have rounds : ∃ spare, (gap ++ (word ++ rest)).length + 1 = used + spare := by
    simp only [List.length_append]
    exact ⟨gap.length + (word.length + rest.length) + 1 - used, by omega⟩
  obtain ⟨spare, enough⟩ := rounds
  rw [skipValue, run?_bind, run?_left, Option.bind_some, enough,
    passes spare [] gap rest blank ends]
  simp [skipAfter, skipEnds, skipPending]

end ContentClasses.Json
