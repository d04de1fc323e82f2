import ContentClasses.Json.Value
import ContentClasses.Proofs.Json.Skip
import Mathlib.Data.List.TakeWhile

/-! What the typed readers make of a text depends on its form only: for each of them there is a
function on forms that says what it yields, or that it fails. -/

namespace ContentClasses.Json

open Scan

/-- Whether a reader makes of the texts of each form what a function says, and stops behind them. -/
def Reads {α : Type} (scan : Scan α) (decode : Form → Option α) : Prop :=
  ∀ ⦃form : Form⦄ ⦃word : List Char⦄, Written form word → ∀ ⦃gap rest : List Char⦄, Blank gap →
    EndsValue rest → scan.run? (gap ++ (word ++ rest)) = (decode form).map (·, rest)

namespace Form

variable {α σ : Type}

/-- The content of a string. -/
def text : Form → Option String
  | .string content => content
  | _ => none

/-- Nothing for `null`, and what another function says otherwise. -/
def optional (decode : Form → Option α) : Form → Option (Option α)
  | .null => some none
  | form => (decode form).map some

/-- The whole number below `2 ^ 32` that a number is, if it is one. -/
def natural32 : Form → Option Nat
  | .number text => (Scan.natural32.run? text).map Prod.fst
  | _ => none

/-- The items of a list. -/
def listOf (decode : Form → Option α) : Form → Option (List α)
  | .list items => items.mapM decode
  | _ => none

/-- What one member of an object builds, unless its key is no text. -/
def memberOf (member : String → σ → Form → Option σ) (state : σ) (entry : Option String × Form) :
    Option σ := do
  member (← entry.1) state entry.2

/-- What the members of an object build one after the other. -/
def objectOf (member : String → σ → Form → Option σ) (start : σ) (finish : σ → Option α) :
    Form → Option α
  | .object members => do finish (← members.foldlM (memberOf member) start)
  | _ => none

end Form

section

variable {α σ : Type} {scan : Scan α} {decode : Form → Option α} {form : Form}
  {word gap rest text : List Char}

/-- No value of a wrong type is accepted. -/
@[simp] theorem run?_wrongType (expected : String) :
    (wrongType expected : Scan α).run? text = none := by
  simp only [wrongType, run?_bind, run?_peek, Option.bind_some]
  split <;> simp
  -- A number is read first, and refused whatever it is.
  intro _ number rest _
  cases number <;> rfl

/-- The first character of a value shows its form. -/
theorem Written.run?_valueStart (written : Written form word) (blank : Blank gap)
    (rest : List Char) :
    ∃ first others, word = first :: others ∧ form.StartsWith first ∧
      valueStart.run? (gap ++ (word ++ rest)) = some (first, word ++ rest) := by
  -- The blanks in front are passed, and none of them belongs to the value.
  obtain ⟨first, others, rfl, start⟩ := written.exists_cons
  refine ⟨first, others, rfl, start, ?_⟩
  simp only [valueStart, run?_bind, run?_skipBlank, Option.bind_some, run?_peek,
    written.dropWhile_append blank]
  rfl

/-- A text is read from strings. -/
theorem reads_text (expected : String) : Reads (Scan.text expected) Form.text := by
  -- The first character decides whether the value is a string at all.
  intro form word written gap rest blank ends
  obtain ⟨first, others, rfl, start, seen⟩ := written.run?_valueStart blank rest
  simp only [Scan.text, run?_bind, seen, Option.bind_some]
  have shown := start.shows
  cases form with
  | string content =>
    cases written with
    | string written =>
      obtain ⟨spelled, same, read⟩ := written.run?_stringRest
      cases same
      simp [read, Form.text]
  | _ => simp_all [Form.text]

/-- Nothing is read from `null`, and another value by another reader. -/
theorem Reads.optional (reads : Reads scan decode) :
    Reads (Scan.optional scan) (Form.optional decode) := by
  intro form word written gap rest blank ends
  -- A value other than nothing is read by the given reader and then wrapped.
  have given : (do return some (← scan) : Scan (Option α)).run? (word ++ rest) =
      ((decode form).map some).map (·, rest) := by
    have inner := reads written blank_nil ends
    rw [List.nil_append] at inner
    rw [run?_bind, inner]
    cases decode form <;> rfl
  obtain ⟨first, others, rfl, start⟩ := written.exists_cons
  simp only [Scan.optional, run?_bind, run?_skipBlank, Option.bind_some, run?_peek,
    written.dropWhile_append blank]
  have shown := start.shows
  cases form with
  | null =>
    cases written
    -- The value is the word itself.
    simp [letters, Form.optional]
  | _ => simp_all [Form.optional]

/-- A step that settles on a text yields on the text alone what it yields in front of others. -/
theorem Settles.run?_append (settled : Settles scan text) (ends : EndsValue rest) :
    scan.run? (text ++ rest) = ((scan.run? text).map Prod.fst).map (·, rest) := by
  -- Alone means in front of nothing, which ends every value.
  obtain ⟨outcome, all⟩ := settled
  have alone := all [] endsValue_nil
  rw [List.append_nil] at alone
  rw [all rest ends, alone]
  cases outcome <;> rfl

/-- The number itself, if it is whole and below `2 ^ 32`. -/
def Number.natural32? : Number → Option Nat
  | .whole value => if 0 ≤ value ∧ value < 0x100000000 then some value.toNat else none
  | .fraction _ => none

/-- A number that must be whole and small settles as any other one. -/
theorem settles_natural32 (numeric : IsNumber text) : Settles natural32 text := by
  obtain ⟨first, others, rfl, numeral⟩ := numeric.exists_cons
  obtain ⟨outcome, settled⟩ := settles_signedNumber numeric
  -- The first character shows that a number stands there.
  have start (rest : List Char) :
      valueStart.run? (first :: others ++ rest) = some (first, first :: others ++ rest) := by
    have apart := numeral_apart numeral
    simp_all [valueStart, isBlank]
  -- The number is read to its end first, and then only its value decides.
  refine ⟨outcome.bind Number.natural32?, fun rest ends => ?_⟩
  simp only [natural32, run?_bind, start, Option.bind_some]
  simp only [numeral, Bool.or_eq_true, decide_eq_true_eq, if_true, run?_bind,
    settled rest ends]
  -- A number that is no whole one, or that is too great, is refused with its text all read.
  rcases outcome with _ | ⟨value⟩ | _
  · rfl
  · by_cases fits : 0 ≤ value ∧ value < 0x100000000 <;> simp [Number.natural32?, fits]
  · rfl

/-- Whole numbers below `2 ^ 32` are read from numbers. -/
theorem reads_natural32 : Reads Scan.natural32 Form.natural32 := by
  intro form word written gap rest blank ends
  -- All other values are refused after a look at their first character.
  cases written with
  | number numeric =>
    have passed : natural32.run? (gap ++ (word ++ rest)) = natural32.run? (word ++ rest) := by
      simp only [natural32, valueStart, run?_bind, run?_skipBlank, blank.dropWhile_append]
    rw [passed, (settles_natural32 numeric).run?_append ends]
    rfl
  | string written =>
    obtain ⟨_⟩ := written
    simp [natural32, valueStart, blank.dropWhile_append, isBlank, Form.natural32]
  | _ => simp [natural32, valueStart, blank.dropWhile_append, isBlank, Form.natural32]

/-- A whole text is accepted exactly if a reader stops at its end or before blanks. -/
theorem readDocument_ok_iff {document : String} {value : α} :
    readDocument scan document = .ok value ↔
      ∃ rest, scan.run? document.toList = some (value, rest) ∧ Blank rest := by
  unfold readDocument
  extract_lets complete
  trans (complete.settled document.toList).1 = .ok value
  · -- A fault of the whole text becomes an error with its place.
    cases (complete.settled document.toList).1 <;> simp
  rw [← exists_run?_iff, run?_settled, run?_bind]
  cases scan.run? document.toList with
  | none => simp
  -- Only blanks may follow the value, so all that is left of them is nothing.
  | some outcome =>
    obtain ⟨found, rest⟩ := outcome
    have ends : rest.dropWhile isBlank = [] ↔ Blank rest := List.dropWhile_eq_nil_iff
    cases left : rest.dropWhile isBlank with
    | nil =>
      have blank := ends.mp left
      simp [left, and_assoc, blank]
    | cons c others =>
      have filled : ¬Blank rest := by simpa [left] using ends
      -- Something other than a blank is left, and then no value is accepted.
      simp [left, filled]

/-- A whole text is accepted exactly if its form is, and then read as its form says. -/
theorem Reads.readDocument_ok_iff (reads : Reads scan decode) {document : String} {value : α}
    (valid : IsDocument form document) :
    readDocument scan document = .ok value ↔ decode form = some value := by
  cases valid with
  | mk blankBefore written blankAfter whole =>
    -- The blanks behind the value end it.
    have read := reads written blankBefore (.blank_append blankAfter endsValue_nil)
    rw [List.append_nil] at read
    rw [Json.readDocument_ok_iff, whole, read]
    cases decode form <;> simp [and_assoc, blankAfter]

end

end ContentClasses.Json
