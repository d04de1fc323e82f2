import ContentClasses.Json.Skip
import ContentClasses.Proofs.Json.Form

/-! Every spelling of a string is read as its content, and passed over whatever its content is. -/

namespace ContentClasses.Json

open Scan

section

variable {digits text rest : List Char} {code : Nat} {content : Option (List Char)}

/-- The digits of a numeric escape are read as their value. -/
theorem HexDigits.run?_hexEscape (written : HexDigits digits code) (rest : List Char) :
    hexEscape.run? (digits ++ rest) = some (code, rest) := by
  -- The four digits are the front of the text, and the rest begins behind them.
  have front : (digits ++ rest).take 4 = digits := by
    simp [← written.four]
  have back : (digits ++ rest).drop 4 = rest := by
    simp [← written.four]
  have long : 4 ≤ (digits ++ rest).length := by
    simp [← written.four]
  rw [run?_eq_some_iff, hexEscape, front, back, written.value]
  exact if_pos long

/-- No short escape has the letter of the numeric ones. -/
theorem shortEscape?_ne {letter c : Char} (known : shortEscape? letter = some c) :
    letter ≠ 'u' := by
  rintro rfl
  simp [shortEscape?] at known

/-- A numeric escape of a character that needs only one is read as that character. -/
theorem run?_numericEscape (written : HexDigits digits code)
    (high : isHighSurrogate code = false) (low : isLowSurrogate code = false) (rest : List Char) :
    numericEscape.run? (digits ++ rest) = some (Char.ofNat code, rest) := by
  simp [numericEscape, written.run?_hexEscape, high, low]

/-- Two numeric escapes are read as the character of a pair. -/
theorem run?_numericEscape_pair {first second : List Char} {high low : Nat}
    (opening : HexDigits first high) (closing : HexDigits second low)
    (isHigh : isHighSurrogate high = true) (isLow : isLowSurrogate low = true)
    (rest : List Char) :
    numericEscape.run? (first ++ '\\' :: 'u' :: (second ++ rest)) =
      some (pairedChar high low, rest) := by
  -- The first half must not be a second one.
  have apart : isLowSurrogate high = false := by
    simp only [isHighSurrogate, Bool.and_eq_true, decide_eq_true_eq] at isHigh
    simp only [isLowSurrogate, Bool.and_eq_false_iff, decide_eq_false_iff_not]
    omega
  simp [numericEscape, opening.run?_hexEscape, apart, isHigh, pairLetter,
    closing.run?_hexEscape, isLow, pairedChar]

/-- The second half of a pair is refused where it stands first. -/
theorem run?_numericEscape_low (written : HexDigits digits code) (low : isLowSurrogate code = true)
    (rest : List Char) : numericEscape.run? (digits ++ rest) = none := by
  simp [numericEscape, written.run?_hexEscape, low]

/-- The first half of a pair is refused unless the second one follows. -/
theorem run?_numericEscape_high (written : HexDigits digits code)
    (high : isHighSurrogate code = true) (spelled : Spells text content)
    (alone : ∀ second low tail, text = '\\' :: 'u' :: (second ++ tail) → HexDigits second low →
      isLowSurrogate low = false) (rest : List Char) :
    numericEscape.run? (digits ++ (text ++ '\x22' :: rest)) = none := by
  -- Digits that do follow have been read by then, and turn out to be no second half.
  have refused {second tail after : List Char} {low : Nat} (next : HexDigits second low)
      (same : text = '\\' :: 'u' :: (second ++ tail)) :
      numericEscape.run? (digits ++ '\\' :: 'u' :: (second ++ after)) = none := by
    simp [numericEscape, written.run?_hexEscape, high, pairLetter, next.run?_hexEscape,
      alone second low tail same next]
  -- Whatever comes next, it is no second half.
  cases spelled with
  | done => simp [numericEscape, written.run?_hexEscape, high, pairLetter]
  | plain allowed _ => simp [numericEscape, written.run?_hexEscape, high, pairLetter, allowed]
  | short known _ =>
    simp [numericEscape, written.run?_hexEscape, high, pairLetter, shortEscape?_ne known]
  | numeric next _ _ _ => simpa using refused next rfl
  | pair next _ _ _ _ => simpa using refused next rfl
  | lowAlone next _ _ => simpa using refused next rfl
  | highAlone next _ _ _ => simpa using refused next rfl

/-- What is read after the opening quote of a string is its content behind what was read before. -/
theorem run?_stringWithin (spelled : Spells text content) {budget : Nat}
    (enough : text.length < budget) (read rest : List Char) :
    (stringWithin budget read).run? (text ++ '\x22' :: rest) =
      content.map fun chars => (String.ofList (read.reverse ++ chars), rest) := by
  -- Each round reads one character or escape, and a half of a pair that stands alone ends them.
  induction spelled generalizing budget read with
  | done =>
    obtain ⟨budget, rfl⟩ := Nat.exists_eq_succ_of_ne_zero (Nat.ne_zero_of_lt enough)
    -- The closing quote ends the string.
    simp [stringWithin]
  | plain allowed _ ih =>
    obtain ⟨budget, rfl⟩ := Nat.exists_eq_succ_of_ne_zero (Nat.ne_zero_of_lt enough)
    simp only [List.length_cons] at enough
    have rounds := ih (Nat.lt_of_succ_lt_succ enough)
    -- A plain character stands for itself.
    simp [stringWithin, allowed, Nat.not_lt.mpr allowed.2.2, rounds, Function.comp_def]
  | short known _ ih =>
    obtain ⟨budget, rfl⟩ := Nat.exists_eq_succ_of_ne_zero (Nat.ne_zero_of_lt enough)
    simp only [List.length_cons] at enough
    have rounds := @ih budget (by omega)
    -- A short escape stands for its character.
    simp [stringWithin, escape, shortEscape?_ne known, known, rounds, Function.comp_def]
  | numeric written high low _ ih =>
    obtain ⟨budget, rfl⟩ := Nat.exists_eq_succ_of_ne_zero (Nat.ne_zero_of_lt enough)
    simp only [List.length_cons, List.length_append] at enough
    have rounds := @ih budget (by omega)
    -- A numeric escape that is no half stands for its character too.
    simp [stringWithin, escape, run?_numericEscape written high low, rounds, Function.comp_def]
  | pair opening closing isHigh isLow _ ih =>
    obtain ⟨budget, rfl⟩ := Nat.exists_eq_succ_of_ne_zero (Nat.ne_zero_of_lt enough)
    simp only [List.length_cons, List.length_append] at enough
    have rounds := @ih budget (by omega)
    -- Two halves stand for one character.
    simp [stringWithin, escape, run?_numericEscape_pair opening closing isHigh isLow, rounds,
      Function.comp_def]
  | lowAlone written low _ _ =>
    obtain ⟨budget, rfl⟩ := Nat.exists_eq_succ_of_ne_zero (Nat.ne_zero_of_lt enough)
    -- A second half without a first one is refused.
    simp [stringWithin, escape, run?_numericEscape_low written low]
  | highAlone written high alone spelled _ =>
    obtain ⟨budget, rfl⟩ := Nat.exists_eq_succ_of_ne_zero (Nat.ne_zero_of_lt enough)
    -- A first half without a second one is refused.
    simp [stringWithin, escape, run?_numericEscape_high written high spelled alone]

/-- A string is read as its content. -/
theorem WrittenString.run?_stringRest {content : Option String} {text : List Char}
    (written : WrittenString content text) :
    ∃ spelled, text = '\x22' :: spelled ∧
      ∀ rest, stringRest.run? (spelled ++ rest) = content.map (·, rest) := by
  obtain @⟨spelled, _, spells⟩ := written
  refine ⟨_, rfl, fun rest => ?_⟩
  -- There are as many rounds as characters, which is enough for the content.
  have enough (after : List Char) : spelled.length < (spelled ++ after).length + 1 := by
    rw [List.length_append]
    omega
  simp only [List.append_assoc, List.singleton_append, stringRest, run?_bind, run?_left,
    Option.bind_some, run?_stringWithin spells (enough _)]
  simp [Function.comp_def]

/-- A string is passed over up to its closing quote. -/
theorem run?_skipStringWithin (spelled : Spells text content) {budget : Nat}
    (enough : text.length < budget) (rest : List Char) :
    (skipStringWithin budget).run? (text ++ '\x22' :: rest) = some ((), rest) := by
  -- Both escapes of a pair are passed over on their own, so its halves need not stand together.
  induction spelled generalizing budget with
  | done =>
    obtain ⟨budget, rfl⟩ := Nat.exists_eq_succ_of_ne_zero (Nat.ne_zero_of_lt enough)
    simp [skipStringWithin]
  | plain allowed _ ih =>
    obtain ⟨budget, rfl⟩ := Nat.exists_eq_succ_of_ne_zero (Nat.ne_zero_of_lt enough)
    simp only [List.length_cons] at enough
    -- A plain character takes one round.
    simp [skipStringWithin, allowed, Nat.not_lt.mpr allowed.2.2, ih (Nat.lt_of_succ_lt_succ enough)]
  | short known _ ih =>
    obtain ⟨budget, rfl⟩ := Nat.exists_eq_succ_of_ne_zero (Nat.ne_zero_of_lt enough)
    simp only [List.length_cons] at enough
    have rounds := @ih budget (by omega)
    simp [skipStringWithin, shortEscape?_ne known, known, rounds]
  | numeric written _ _ _ ih | lowAlone written _ _ ih | highAlone written _ _ _ ih =>
    obtain ⟨budget, rfl⟩ := Nat.exists_eq_succ_of_ne_zero (Nat.ne_zero_of_lt enough)
    simp only [List.length_cons, List.length_append] at enough
    have rounds := @ih budget (by omega)
    -- A numeric escape takes one round, whatever it stands for.
    simp [skipStringWithin, written.run?_hexEscape, rounds]
  | pair opening closing _ _ _ ih =>
    simp only [List.length_cons, List.length_append] at enough
    obtain ⟨budget, rfl⟩ := Nat.exists_eq_add_of_le' (show 2 ≤ budget by omega)
    have rounds := @ih budget (by omega)
    -- A pair takes two rounds.
    simp [skipStringWithin, opening.run?_hexEscape, closing.run?_hexEscape, rounds]

/-- A string is passed over. -/
theorem WrittenString.run?_skipString {content : Option String} {text : List Char}
    (written : WrittenString content text) :
    ∃ spelled, text = '\x22' :: spelled ∧
      ∀ rest, skipString.run? (spelled ++ rest) = some ((), rest) := by
  obtain @⟨spelled, _, spells⟩ := written
  refine ⟨_, rfl, fun rest => ?_⟩
  -- There are as many rounds as characters, which is enough here as well.
  have enough (after : List Char) : spelled.length < (spelled ++ after).length + 1 := by
    rw [List.length_append]
    omega
  simp only [List.append_assoc, List.singleton_append, skipString, run?_bind, run?_left,
    Option.bind_some, run?_skipStringWithin spells (enough _)]

end

end ContentClasses.Json
