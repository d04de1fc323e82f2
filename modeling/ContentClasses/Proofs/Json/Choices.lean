import ContentClasses.Proofs.Json.Containers

/-! What is made of choices between names and of values of any shape. -/

namespace ContentClasses.Json

open Scan

namespace Form

/-- The value with the name that stands alone or as the only key of an object with `null`. -/
def choice {α : Type} (choices : List (String × α)) : Form → Option α
  | .string name => do choices.lookup (← name)
  | .object [(name, .null)] => do choices.lookup (← name)
  | _ => none

/-- The value that is no container. -/
def scalar : Form → Option Value
  | .null => some .null
  | .boolean value => some (.boolean value)
  | .number text => (Scan.signedNumber.run? text).map fun
    | (.whole value, _) => .integer value
    | (.fraction value, _) => .float value
  | .string content => content.map .string
  | _ => none

/-- The value in which so many containers may be open at a time. -/
def valueWithin : (depth : Nat) → Form → Option Value
  | depth + 1, .list items => (items.mapM (valueWithin depth)).map .list
  | depth + 1, .object members =>
    objectOf (fun key read form => (valueWithin depth form).map fun value => read ++ [(key, value)])
      [] (fun read => some (.object read)) (.object members)
  | _, form => scalar form

end Form

section

variable {α : Type} {form : Form} {word gap rest : List Char}

/-- Blanks before a string are passed over, and it is read whatever follows it. -/
theorem WrittenString.run?_text {content : Option String} (written : WrittenString content word)
    (blank : Blank gap) (expected : String) (rest : List Char) :
    (Scan.text expected).run? (gap ++ (word ++ rest)) = content.map (·, rest) := by
  have quote : isBlank '\x22' = false := by decide
  obtain ⟨spelled, rfl, read⟩ := written.run?_stringRest
  simp [Scan.text, valueStart, blank.dropWhile_append, quote, read]

/-- A name is looked up among the known ones. -/
theorem run?_known (choices : List (String × α)) (name : String) (text : List Char) :
    (known choices name).run? text = (choices.lookup name).map (·, text) := by
  unfold known
  cases choices.lookup name <;> rfl

/-- Nothing but `null` is read as nothing. -/
theorem Written.run?_unit (written : Written form word) (blank : Blank gap) (rest : List Char) :
    unit.run? (gap ++ (word ++ rest)) =
      match form with
      | .null => some ((), rest)
      | _ => none := by
  obtain ⟨first, others, rfl, start, seen⟩ := written.run?_valueStart blank rest
  simp only [unit, run?_bind, seen, Option.bind_some]
  -- A look at the first character tells `null` from every other value.
  have shown := start.shows
  cases form with
  | null =>
    cases written
    simp [letters]
  | _ => simp_all

/-- A choice is read from its name, in either of its forms. -/
theorem reads_choice (choices : List (String × α)) :
    Reads (Scan.choice choices) (Form.choice choices) := by
  intro form word written gap rest blank ends
  -- The first character tells a string from an object.
  obtain ⟨first, others, rfl, start, seen⟩ := written.run?_valueStart blank rest
  simp only [Scan.choice, run?_bind, seen, Option.bind_some]
  have shown := start.shows
  -- A name stands alone, or as the only key of an object, and nothing else is a choice.
  cases form with
  | string content =>
    cases written with
    | string written =>
      obtain ⟨spelled, same, read⟩ := written.run?_stringRest
      cases same
      cases content <;> simp [read, run?_known, Form.choice]
  | object members =>
    cases written with
    | emptyObject inner =>
      have brace : isBlank '\x7d' = false := by decide
      -- An empty object has no key that could be a name.
      simp [Scan.text, valueStart, inner.dropWhile_append, brace, Form.choice]
    | @object inner _ tail _ members blankInner head others =>
      obtain @⟨_, word, before, after, key, value, named, blankBefore, blankAfter, content⟩ := head
      simp only [List.cons_append, List.append_assoc, List.drop_one, List.tail_cons, run?_bind,
        run?_advance, Option.bind_some, run?_settled, named.run?_text blankInner]
      cases key with
      -- A key that is not even text fails whatever its value is.
      | none => cases value <;> cases members <;> rfl
      | some name =>
        -- The key must be a known name, and `null` its value.
        simp only [Option.map_some, Option.bind_some, run?_known]
        cases found : choices.lookup name with
        | none => cases value <;> cases members <;> simp [Form.choice, found]
        | some chosen =>
          simp only [Option.map_some, Option.bind_some, run?_colon blankBefore,
            content.run?_unit blankAfter]
          cases value with
          | null =>
            -- There must be no other key.
            cases others with
            | done blankTail =>
              have brace : isBlank '\x7d' = false := by decide
              simp [blankTail.dropWhile_append, brace, Form.choice, found]
            | next blankTail _ _ _ =>
              have comma : isBlank ',' = false := by decide
              -- A second key refuses the choice, whatever it says.
              simp [blankTail.dropWhile_append, comma, Form.choice]
          | _ => simp [Form.choice]
  | _ => simp_all [Form.choice]

/-- A value that is no container is read after a look at its first character. -/
theorem Written.run?_scalar {first : Char} {others : List Char}
    (written : Written form (first :: others)) (ends : EndsValue rest) :
    (Scan.scalar first).run? (first :: others ++ rest) = form.scalar.map (·, rest) := by
  -- The first character of a value tells its kind.
  cases written with
  | number numeric =>
    obtain ⟨_, _, same, numeral⟩ := numeric.exists_cons
    cases same
    have apart := numeral_apart numeral
    have read := (settles_signedNumber numeric).run?_append ends
    simp only [List.mem_cons, not_or] at apart
    simp only [Form.scalar]
    -- What a number is read as depends on its letters, which are all read.
    generalize signedNumber.run? (first :: others) = outcome at read ⊢
    rcases outcome with _ | ⟨_ | _, _⟩ <;> simp_all [Scan.scalar]
  | @string content _ written =>
    obtain ⟨spelled, same, read⟩ := written.run?_stringRest
    cases same
    simp only [Scan.scalar, Form.scalar, List.cons_append, run?_bind, run?_advance,
      Option.bind_some, List.drop_one, List.tail_cons, read]
    cases content <;> rfl
  | _ => simp [Scan.scalar, letters, Form.scalar]

/-- One member of an object of any shape is read as its value is. -/
theorem Reads.valueMember {scan : Scan Value} {decode : Form → Option Value}
    (reads : Reads scan decode) :
    ReadsMember (Scan.valueMember scan) fun key read form =>
      (decode form).map fun value => read ++ [(key, value)] := by
  -- Behind the colon the value is read as it is alone.
  intro key state form word before after rest written blankBefore blankAfter ends
  simp only [Scan.valueMember, run?_bind, run?_colon blankBefore, Option.bind_some,
    reads written blankAfter ends]
  cases decode form <;> rfl

/-- Values of any shape are read up to a number of open containers. -/
theorem reads_valueWithin (depth : Nat) :
    Reads (Scan.valueWithin depth) (Form.valueWithin depth) := by
  -- Every open container leaves room for one less inside it.
  induction depth with
  | zero =>
    intro form word written gap rest blank ends
    -- No container may be opened any more, so that only the plain values are left.
    obtain ⟨first, others, rfl, start, seen⟩ := written.run?_valueStart blank rest
    have plain := written.run?_scalar ends
    simp only [Scan.valueWithin, run?_bind, seen, Option.bind_some, run?_ite, run?_failNext, plain]
    have shown := start.shows
    cases form with
    | list _ | object _ => simp_all [Form.valueWithin, Form.scalar, Form.StartsWith]
    | _ => simp_all [Form.valueWithin]
  | succ depth ih =>
    intro form word written gap rest blank ends
    -- A list is read by the rule for lists of values one level down.
    have asList := ih.list "a sequence" written blank_nil ends
    have finishes (read : List (String × Value)) (text : List Char) :
        (pure (.object read) : Scan Value).run? text = (some (Value.object read)).map (·, text) :=
      rfl
    -- An object is read by the rule for members one level down.
    have asObject := ih.valueMember.object finishes "a map" [] written blank_nil ends
    obtain ⟨first, others, rfl, start, seen⟩ := written.run?_valueStart blank rest
    have plain := written.run?_scalar ends
    rw [List.nil_append] at asList asObject
    simp only [Scan.valueWithin, run?_bind, seen, Option.bind_some, run?_ite, plain, asList,
      asObject]
    have shown := start.shows
    cases form with
    | list items =>
      have opening : first = '[' := start
      rw [if_pos opening]
      simp only [Form.listOf, Form.valueWithin]
      cases items.mapM (Form.valueWithin depth) <;> rfl
    | object members =>
      have opening : first = '\x7b' := start
      have apart : first ≠ '[' := by rw [opening]; decide
      rw [if_neg apart, if_pos opening]
      rfl
    | _ => simp_all [Form.valueWithin]

end

end ContentClasses.Json
