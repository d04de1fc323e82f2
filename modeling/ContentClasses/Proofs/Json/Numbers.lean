import ContentClasses.Proofs.Json.Form
import ContentClasses.Proofs.Text.Pieces
import Mathlib.Data.List.TakeWhile

/-! Numbers end where their texts do: what is read of one does not depend on what follows it. -/

namespace ContentClasses.Json

open Scan

/-- A text that does not go on with a digit. -/
def StopsDigits (rest : List Char) : Prop := ∀ c ∈ rest.head?, c.isDigit = false

section

variable {text rest : List Char}

/-- Digits are read up to the first other character. -/
theorem IsDigits.takeWhile_append (digits : IsDigits text) (stops : StopsDigits rest) :
    (text ++ rest).takeWhile Char.isDigit = text :=
  takeWhile_append_of_head digits.all stops

/-- Reading digits leaves what comes after them. -/
theorem IsDigits.dropWhile_append (digits : IsDigits text) (stops : StopsDigits rest) :
    (text ++ rest).dropWhile Char.isDigit = rest :=
  dropWhile_append_of_head digits.all stops

/-- Digits begin with a digit. -/
theorem IsDigits.exists_cons (digits : IsDigits text) :
    ∃ first others, text = first :: others ∧ first.isDigit = true := by
  obtain ⟨first, others, rfl⟩ := List.exists_cons_of_ne_nil digits.filled
  exact ⟨first, others, rfl, digits.all first (by simp)⟩

/-- What stands before the point of a number begins with a digit. -/
theorem IsWholePart.exists_cons (units : IsWholePart text) :
    ∃ first others, text = first :: others ∧ first.isDigit = true := by
  cases units with
  | zero => exact ⟨'0', [], rfl, by decide⟩
  | digits digits _ => exact digits.exists_cons

/-- No character that may follow a value belongs to a number. -/
theorem EndsValue.head (ends : EndsValue rest) :
    ∀ c ∈ rest.head?, c.isDigit = false ∧ c ≠ '.' ∧ c ≠ 'e' ∧ c ≠ 'E' := by
  intro c first
  have marks := ends c first
  simp only [isBlank, Bool.or_eq_true, decide_eq_true_eq] at marks
  -- Blanks and the marks of containers are checked one by one.
  rcases marks with (((rfl | rfl) | rfl) | rfl) | rfl | rfl | rfl <;> decide

/-- An exponent does not begin like the digits before it. -/
theorem IsExponent.stopsDigits (exponent : IsExponent text) (ends : EndsValue rest) :
    StopsDigits (text ++ rest) := by
  cases exponent with
  | absent => exact fun c first => (ends.head c first).1
  | power marked _ _ => rcases marked with rfl | rfl <;> simp [StopsDigits]

/-- What follows the digits before the point does not begin like them. -/
theorem IsFraction.stopsDigits {power : List Char} (fraction : IsFraction text)
    (exponent : IsExponent power) (ends : EndsValue rest) :
    StopsDigits (text ++ (power ++ rest)) := by
  cases fraction with
  | absent => exact exponent.stopsDigits ends
  | places _ => simp [StopsDigits]

/-- Passing over an exponent ends where it does. -/
theorem IsExponent.run?_skipExponent (exponent : IsExponent text) (ends : EndsValue rest) :
    skipExponent.run? (text ++ rest) = some ((), rest) := by
  have stops : StopsDigits rest := fun c first => (ends.head c first).1
  -- Without an exponent, the next character must not look like one.
  cases exponent with
  | absent =>
    have other : rest.head? ≠ some 'e' ∧ rest.head? ≠ some 'E' :=
      ⟨fun same => (ends.head 'e' same).2.2.1 rfl, fun same => (ends.head 'E' same).2.2.2 rfl⟩
    simp [skipExponent, other]
  -- What follows the letter is a sign or a digit.
  | power marked signed digits =>
    obtain ⟨first, others, rfl, digit⟩ := digits.exists_cons
    have plain : first ≠ '+' ∧ first ≠ '-' := by
      constructor <;> (rintro rfl; revert digit; decide)
    have past := digits.dropWhile_append stops
    -- Both letters and all signs lead to the digits.
    rcases marked with rfl | rfl <;> rcases signed with rfl | rfl | rfl <;>
      simp_all [skipExponent]

/-- An exponent does not begin with a point. -/
theorem IsExponent.head_ne_point (exponent : IsExponent text) (ends : EndsValue rest) :
    (text ++ rest).head? ≠ some '.' := by
  cases exponent with
  | absent => exact fun same => (ends.head '.' same).2.1 rfl
  | power marked _ _ => rcases marked with rfl | rfl <;> simp

/-- No digit follows digits that were read to their end. -/
theorem StopsDigits.any_head (stops : StopsDigits rest) :
    rest.head?.any Char.isDigit = false := by
  cases rest with
  | nil => rfl
  | cons c rest => exact stops c rfl

/-- Passing over a number after its sign ends where its text does. -/
theorem run?_skipNumber {places power : List Char} (units : IsWholePart text)
    (fraction : IsFraction places) (exponent : IsExponent power) (ends : EndsValue rest) :
    skipNumber.run? (text ++ (places ++ (power ++ rest))) = some ((), rest) := by
  -- The digits of each part end where the next one begins.
  have stops := fraction.stopsDigits exponent ends
  have further := exponent.run?_skipExponent ends
  have point := exponent.head_ne_point ends
  have past {digits : List Char} (digit : IsDigits digits) :=
    digit.dropWhile_append (exponent.stopsDigits ends)
  have taken {digits : List Char} (digit : IsDigits digits) :=
    digit.takeWhile_append (exponent.stopsDigits ends)
  -- A leading zero stands alone, and other digits are read together.
  cases units with
  | zero =>
    -- No second digit follows a leading zero.
    have next := stops.any_head
    cases fraction with
    | absent => simp_all [skipNumber]
    | places digits =>
      simp [-List.takeWhile_eq_nil_iff, skipNumber, past digits, taken digits, digits.filled,
        further]
  | digits digits plain =>
    obtain ⟨first, others, rfl, digit⟩ := digits.exists_cons
    -- The first digit is looked at before the others are passed.
    have left := digits.dropWhile_append stops
    cases fraction with
    | absent => simp_all [skipNumber]
    | places inner =>
      simp_all [-List.takeWhile_eq_nil_iff, skipNumber, inner.filled]

end

/-- Whether a step on a text has one outcome, whatever follows the text, and then ends with it. -/
def Settles {α : Type} (scan : Scan α) (text : List Char) : Prop :=
  ∃ outcome : Option α, ∀ rest, EndsValue rest → scan.run? (text ++ rest) = outcome.map (·, rest)

section

variable {text : List Char}

/-- A fraction is made of what was read before it. -/
theorem exists_run?_fraction (negative : Bool) (significand : Nat) (exponent : Int) :
    ∃ outcome : Option Number, ∀ rest,
      (fraction negative significand exponent).run? rest = outcome.map (·, rest) := by
  unfold fraction
  cases scaleByTen? 4 (.ofRatio false significand 1) exponent with
  | none => exact ⟨none, fun rest => rfl⟩
  | some value => exact ⟨some _, fun rest => rfl⟩

/-- The digits of an exponent settle a number. -/
theorem settles_exponentPart (negative : Bool) (significand : Nat) (start : Int)
    {sign : List Char} (signed : sign = [] ∨ sign = ['+'] ∨ sign = ['-'])
    (digits : IsDigits text) :
    Settles (exponentPart negative significand start) (sign ++ text) := by
  -- The first digit is looked at, and only then are the others read.
  obtain ⟨first, others, rfl, digit⟩ := digits.exists_cons
  have plain : first ≠ '+' ∧ first ≠ '-' := by
    constructor <;> (rintro rfl; revert digit; decide)
  -- Whatever follows the number, the digits of the exponent end at its end.
  have cut {rest : List Char} (ends : EndsValue rest) :
      (others ++ rest).takeWhile Char.isDigit = others ∧
        (others ++ rest).dropWhile Char.isDigit = rest := by
    have stops : StopsDigits rest := fun c head => (ends.head c head).1
    have read := digits.takeWhile_append stops
    have past := digits.dropWhile_append stops
    rw [List.cons_append] at read past
    exact ⟨by simpa [digit] using read, by simpa [digit] using past⟩
  -- Too great an exponent is zero or out of range, and any other makes a fraction.
  cases overflow : overflowAt? 0 (first :: others) with
  | none =>
    obtain ⟨outcome, scaled⟩ := exists_run?_fraction negative significand
      (if sign = ['-'] then start - (accumulate 0 (first :: others)).1
        else start + (accumulate 0 (first :: others)).1)
    refine ⟨outcome, fun rest ends => ?_⟩
    rcases signed with rfl | rfl | rfl <;>
      simpa [exponentPart, plain, digit, cut ends, overflow] using scaled rest
  | some count =>
    by_cases small : significand = 0 ∨ sign = ['-']
    · refine ⟨some (.fraction (.zero negative)), fun rest ends => ?_⟩
      rcases signed with rfl | rfl | rfl <;> simp at small <;>
        simp [exponentPart, plain, digit, cut ends, overflow, small]
    · refine ⟨none, fun rest ends => ?_⟩
      rcases signed with rfl | rfl | rfl <;> simp at small <;>
        simp [exponentPart, plain, digit, cut ends, overflow, small] <;> rfl

/-- An exponent, or its absence, settles a number. -/
theorem settles_afterFraction (negative : Bool) (significand : Nat) (start : Int)
    (exponent : IsExponent text) : Settles (afterFraction negative significand start) text := by
  -- Without an exponent, what follows must not look like the letter of one.
  cases exponent with
  | absent =>
    obtain ⟨outcome, scaled⟩ := exists_run?_fraction negative significand start
    refine ⟨outcome, fun rest ends => ?_⟩
    rw [List.nil_append, ← scaled]
    cases rest with
    | nil => simp [afterFraction]
    | cons c rest =>
      have other := ends.head c rfl
      simp [afterFraction, other]
  | power marked signed digits =>
    obtain ⟨outcome, settled⟩ :=
      settles_exponentPart negative significand start signed digits
    refine ⟨outcome, fun rest ends => ?_⟩
    rw [← settled rest ends]
    rcases marked with rfl | rfl <;> simp [afterFraction]

/-- What follows the digits before the point settles a number. -/
theorem settles_afterDigits (negative : Bool) (units : List Char) {places power : List Char}
    (fraction : IsFraction places) (exponent : IsExponent power) :
    Settles (afterDigits negative units) (places ++ power) := by
  cases fraction with
  -- What follows decides between a whole number and a fraction.
  | absent =>
    cases exponent with
    | absent =>
      -- Without a point and an exponent the digits alone make the number.
      obtain ⟨outcome, scaled⟩ := exists_run?_fraction negative (accumulate 0 units).1
        (accumulate 0 units).2.length
      refine ⟨if (accumulate 0 units).2.isEmpty then
          some (wholeNumber negative (accumulate 0 units).1)
        else outcome, fun rest ends => ?_⟩
      have other : ∀ c ∈ rest.head?, c ≠ '.' ∧ c ≠ 'e' ∧ c ≠ 'E' :=
        fun c head => (ends.head c head).2
      cases rest with
      -- The end of the text ends the digits too.
      | nil => simp [afterDigits, scaled]; split <;> rfl
      | cons c rest => simp_all [afterDigits]; split <;> rfl
    | power marked signed digits =>
      obtain ⟨outcome, settled⟩ := settles_afterFraction negative (accumulate 0 units).1
        (accumulate 0 units).2.length (.power marked signed digits)
      refine ⟨outcome, fun rest ends => ?_⟩
      rw [List.nil_append, ← settled rest ends]
      -- Without a point, the exponent is taken as it stands.
      rcases marked with rfl | rfl <;> simp [afterDigits]
  | places digits =>
    -- The decimals are counted, since each of them lowers the exponent by one.
    rename_i decimals
    obtain ⟨outcome, settled⟩ := settles_afterFraction negative
      (accumulate (accumulate 0 units).1 decimals).1
      ((accumulate 0 units).2.length -
        ((decimals.length : Int) - (accumulate (accumulate 0 units).1 decimals).2.length)) exponent
    refine ⟨outcome, fun rest ends => ?_⟩
    have passed := digits.dropWhile_append (exponent.stopsDigits ends)
    have read := digits.takeWhile_append (exponent.stopsDigits ends)
    rw [← settled rest ends]
    simp [-List.takeWhile_eq_nil_iff, afterDigits, passed, read, digits.filled]

/-- A number after its sign settles. -/
theorem settles_number (negative : Bool) {places power : List Char} (units : IsWholePart text)
    (fraction : IsFraction places) (exponent : IsExponent power) :
    Settles (number negative) (text ++ (places ++ power)) := by
  -- No digit follows the whole part.
  have next {rest : List Char} (ends : EndsValue rest) :
      StopsDigits ((places ++ power) ++ rest) := by
    rw [List.append_assoc]
    exact fraction.stopsDigits exponent ends
  -- Whichever digits come first, they end where the point or the exponent begins.
  cases units with
  | zero =>
    obtain ⟨outcome, settled⟩ := settles_afterDigits negative ['0'] fraction exponent
    refine ⟨outcome, fun rest ends => ?_⟩
    rw [← settled rest ends]
    have stops := next ends
    -- The character after the zero is looked at once more, and it is no digit.
    cases others : (places ++ power) ++ rest with
    | nil => simp_all [number]
    | cons c others' =>
      have other : c.isDigit = false := stops c (by simp [others])
      simp_all [number]
  | digits digits plain =>
    obtain ⟨outcome, settled⟩ := settles_afterDigits negative text fraction exponent
    -- All digits are taken at once.
    refine ⟨outcome, fun rest ends => ?_⟩
    have passed := digits.dropWhile_append (next ends)
    have read := digits.takeWhile_append (next ends)
    obtain ⟨first, others, rfl, digit⟩ := digits.exists_cons
    rw [← settled rest ends]
    simp_all [number]

/-- Every number is read to its end, and what it is read as depends on its text only. -/
theorem settles_signedNumber (numeric : IsNumber text) : Settles signedNumber text := by
  obtain @⟨sign, whole, places, power, signed, units, fraction, exponent⟩ := numeric
  -- The sign is read first, and only decides what the digits after it mean.
  rcases signed with rfl | rfl
  · obtain ⟨outcome, settled⟩ := settles_number false units fraction exponent
    refine ⟨outcome, fun rest ends => ?_⟩
    rw [List.nil_append, ← settled rest ends]
    obtain ⟨first, others, rfl, digit⟩ := units.exists_cons
    have plain : first ≠ '-' := by
      rintro rfl
      revert digit
      decide
    simp [signedNumber, plain]
  · obtain ⟨outcome, settled⟩ := settles_number true units fraction exponent
    exact ⟨outcome, fun rest ends => by rw [← settled rest ends]; simp [signedNumber]⟩

/-- A number begins with a digit or a minus. -/
theorem IsNumber.exists_cons (numeric : IsNumber text) :
    ∃ first others, text = first :: others ∧ (first = '-' ∨ first.isDigit = true) := by
  -- The sign stands first, and without one the first digit.
  obtain @⟨sign, whole, places, power, signed, units, fraction, exponent⟩ := numeric
  rcases signed with rfl | rfl
  · obtain ⟨first, others, rfl, digit⟩ := units.exists_cons
    exact ⟨first, _, rfl, .inr digit⟩
  · exact ⟨'-', _, rfl, .inl rfl⟩

end

end ContentClasses.Json
