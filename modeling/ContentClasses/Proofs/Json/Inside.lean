import ContentClasses.Proofs.Json.Readers

/-! What a reader takes from a text it also takes from that text in front of the end of an object,
so that a value which is accepted alone is accepted as the last one of an object. Steps of which
this holds are said not to be disturbed. -/

namespace ContentClasses.Json

open Scan

/-- Whether all that one step reads from a text is read by another one from the text with the end of
an object behind it, if so many characters of the text are left. The other step is the same but for
the number of rounds that it may take. -/
def ReadsInside {α : Type} (least : Nat) (text : List Char) (scan inside : Scan α) : Prop :=
  ∀ (value : α) (rest : List Char), scan.run? text = some (value, rest) →
    rest.length ≤ text.length ∧ (least ≤ rest.length →
      ∀ more, inside.run? (text ++ '\x7d' :: more) = some (value, rest ++ '\x7d' :: more))

namespace ReadsInside

variable {α β : Type} {least : Nat} {text : List Char}

/-- A step that reads nothing is not disturbed. -/
theorem pure {value : α} : ReadsInside least text (pure value : Scan α) (pure value) := by
  intro other rest yielded
  cases yielded
  exact ⟨Nat.le_refl _, fun _ _ => rfl⟩

/-- Of a step that fails nothing is asked. -/
theorem of_fails {scan inside : Scan α} (fails : scan.run? text = none) :
    ReadsInside least text scan inside := by
  intro value rest yielded
  rw [fails] at yielded
  nomatch yielded

/-- One step after another is not disturbed if the first is not and the other one is not either in
front of what the first leaves. -/
theorem bind_run {first first' : Scan β} {next next' : β → Scan α}
    (begins : ReadsInside least text first first')
    (goesOn : ∀ value rest, first.run? text = some (value, rest) →
      ReadsInside least rest (next value) (next' value)) :
    ReadsInside least text (first >>= next) (first' >>= next') := by
  intro value rest yielded
  rw [run?_bind] at yielded
  obtain ⟨⟨middle, tail⟩, before, after⟩ := Option.bind_eq_some_iff.mp yielded
  obtain ⟨shorter, same⟩ := begins _ _ before
  obtain ⟨shortest, whole⟩ := goesOn middle tail before _ _ after
  -- What is left at last has been left in between.
  refine ⟨Nat.le_trans shortest shorter, fun enough more => ?_⟩
  rw [run?_bind, same (Nat.le_trans enough shortest) more, Option.bind_some]
  exact whole enough more

/-- One step after another is not disturbed if neither is. -/
theorem bind {first first' : Scan β} {next next' : β → Scan α}
    (begins : ReadsInside least text first first')
    (goesOn : ∀ value rest, ReadsInside least rest (next value) (next' value)) :
    ReadsInside least text (first >>= next) (first' >>= next') :=
  begins.bind_run fun value rest _ => goesOn value rest

/-- A choice is not disturbed if neither of its cases is. -/
theorem ite {condition : Prop} [Decidable condition] {first first' second second' : Scan α}
    (yes : condition → ReadsInside least text first first')
    (no : ¬ condition → ReadsInside least text second second') :
    ReadsInside least text (if condition then first else second)
      (if condition then first' else second') := by
  split
  · exact yes ‹_›
  · exact no ‹_›

/-- A look at the next character sees the same one, or the end of the object instead of none. -/
theorem peek {next next' : Option Char → Scan α}
    (ends : ReadsInside least [] (next none) (next' (some '\x7d')))
    (goesOn : ∀ c rest, ReadsInside least (c :: rest) (next (some c)) (next' (some c))) :
    ReadsInside least text (peek >>= next) (peek >>= next') := by
  cases text with
  | nil => exact ends
  | cons c text => exact goesOn c text

/-- A character that is there is read. -/
theorem advance {c : Char} : ReadsInside least (c :: text) advance advance := by
  intro value rest yielded
  cases yielded
  exact ⟨Nat.le_succ _, fun _ _ => rfl⟩

/-- More rounds may be taken in a longer text. -/
theorem left (next : Nat → Scan α)
    (grows : ∀ long, text.length + 1 ≤ long →
      ReadsInside least text (next (text.length + 1)) (next long)) :
    ReadsInside least text (do let rest ← left; next (rest.length + 1))
      (do let rest ← left; next (rest.length + 1)) := by
  -- The rounds are counted by what is left, which is more in the longer text.
  intro value rest yielded
  rw [run?_bind, run?_left, Option.bind_some] at yielded
  refine ⟨(grows _ (Nat.le_refl _) _ _ yielded).1, fun enough more => ?_⟩
  rw [run?_bind, run?_left, Option.bind_some]
  exact (grows _ (by simp) _ _ yielded).2 enough more

/-- A container is not disturbed if its end is not, which needs something to be left by its body. -/
theorem enclosed {finish : Scan Unit} {body body' : Scan α} (needed : finish.run? [] = none)
    (inside : ReadsInside 1 text body body')
    (closes : ∀ rest, ReadsInside least rest finish finish) :
    ReadsInside least text (Scan.enclosed finish body) (Scan.enclosed finish body') := by
  intro value rest yielded
  -- The body comes first, and the end of the container is looked for in what it leaves.
  rw [run?_enclosed] at yielded
  obtain ⟨⟨built, tail⟩, before, after⟩ := Option.bind_eq_some_iff.mp yielded
  obtain ⟨⟨_, closed⟩, done, same⟩ := Option.map_eq_some_iff.mp after
  cases same
  obtain ⟨shorter, whole⟩ := inside _ _ before
  obtain ⟨shortest, ended⟩ := closes tail _ _ done
  -- As the end was found, the body has left something.
  have filled : 1 ≤ tail.length := by
    refine List.length_pos_iff.mpr fun empty => ?_
    rw [empty, needed] at done
    nomatch done
  -- So the body is the same in the longer text, and the end after it too.
  refine ⟨Nat.le_trans shortest shorter, fun enough more => ?_⟩
  rw [run?_enclosed, whole filled more, Option.bind_some, ended enough more]
  rfl

/-- The end of an object is no blank. -/
theorem dropWhile_isBlank (text more : List Char) :
    (text ++ '\x7d' :: more).dropWhile isBlank =
      text.dropWhile isBlank ++ '\x7d' :: more := by
  -- The blanks stop at the brace if they have not stopped before.
  have brace : isBlank '\x7d' = false := by decide
  induction text with
  | nil => simp [brace]
  | cons c text ih => cases blank : isBlank c <;> simp [blank, ih]

/-- Blanks are read up to the same place. -/
theorem skipBlank : ReadsInside least text skipBlank skipBlank := by
  -- A text of blanks only is passed whole.
  intro value rest yielded
  cases yielded
  refine ⟨(List.dropWhile_suffix _).length_le, fun _ more => ?_⟩
  rw [run?_skipBlank, dropWhile_isBlank]

/-- Digits are read up to the same place. -/
theorem digits : ReadsInside least text digits digits := by
  -- The digits stop at the brace if they have not stopped before.
  have brace : Char.isDigit '\x7d' = false := by decide
  intro value rest yielded
  cases yielded
  refine ⟨(List.dropWhile_suffix _).length_le, fun _ more => ?_⟩
  rw [run?_digits]
  induction text with
  | nil => simp [brace]
  | cons c text ih => cases digit : c.isDigit <;> simp_all

/-- A value begins with the same character. -/
theorem valueStart {next next' : Char → Scan α}
    (goesOn : ∀ c rest, ReadsInside least (c :: rest) (next c) (next' c)) :
    ReadsInside least text (valueStart >>= next) (valueStart >>= next') := by
  -- What is looked at is the first character behind the blanks.
  intro value rest yielded
  simp only [Scan.valueStart, run?_bind, run?_skipBlank, run?_peek, Option.bind_some,
    dropWhile_isBlank] at yielded ⊢
  have shorter : (text.dropWhile isBlank).length ≤ text.length :=
    (List.dropWhile_suffix _).length_le
  cases seen : text.dropWhile isBlank with
  -- Without a character there would be no value.
  | nil =>
    rw [seen] at yielded
    cases yielded
  | cons c others =>
    -- With one, the longer text has the same one.
    rw [seen] at yielded shorter
    obtain ⟨shortest, whole⟩ := goesOn c others _ _ yielded
    exact ⟨Nat.le_trans shortest shorter, whole⟩

/-- Reading does not make a text longer. -/
theorem length_le {scan : Scan α} {value : α} {rest : List Char}
    (read : scan.run? text = some (value, rest)) (same : ReadsInside 0 text scan scan) :
    rest.length ≤ text.length :=
  (same _ _ read).1

end ReadsInside

section

variable {α : Type} {least : Nat} {text rest : List Char}

/-- The rest of a literal is not disturbed. -/
theorem readsInside_letters (word : List Char) :
    ReadsInside least text (letters word) (letters word) := by
  -- One letter after the other is compared.
  induction word generalizing text with
  | nil => exact .pure
  | cons letter word ih =>
    exact .peek (.of_fails rfl) fun _ _ =>
      .ite (fun _ => .bind .advance fun _ _ => ih) fun _ => .of_fails rfl

/-- The four digits of a numeric escape are not disturbed. -/
theorem readsInside_hexEscape : ReadsInside least text hexEscape hexEscape := by
  intro value rest yielded
  rw [run?_eq_some_iff] at yielded
  unfold hexEscape at yielded
  -- Only an escape with all its digits is read, and these are the same in the longer text.
  split at yielded
  · rename_i code known
    split at yielded
    · rename_i four
      cases yielded
      refine ⟨by simp, fun _ more => ?_⟩
      rw [run?_eq_some_iff, hexEscape, List.take_append_of_le_length four, known,
        List.drop_append_of_le_length four]
      simp [Nat.le_add_right_of_le four]
    · cases yielded
  · split at yielded <;> cases yielded

/-- The letter of a second escape is not disturbed. -/
theorem readsInside_pairLetter (letter : Char) :
    ReadsInside least text (pairLetter letter) (pairLetter letter) :=
  .peek (.of_fails rfl) fun _ _ => .ite (fun _ => .advance) fun _ => .of_fails rfl

/-- A numeric escape is not disturbed. -/
theorem readsInside_numericEscape : ReadsInside least text numericEscape numericEscape :=
  .bind readsInside_hexEscape fun _ _ => .ite (fun _ => .of_fails rfl) fun _ =>
    .ite
      (fun _ => .bind (readsInside_pairLetter _) fun _ _ =>
        .bind (readsInside_pairLetter _) fun _ _ => .bind readsInside_hexEscape fun _ _ =>
          .ite (fun _ => .pure) fun _ => .of_fails rfl)
      fun _ => .pure

/-- An escape is not disturbed. -/
theorem readsInside_escape : ReadsInside least text escape escape := by
  -- An escape is looked up by its first letter, and without one it fails.
  refine .peek (.of_fails rfl) fun c rest => ?_
  split
  · exact .of_fails rfl
  · exact .bind .advance fun _ _ => readsInside_numericEscape
  · split
    · exact .bind .advance fun _ _ => .pure
    · exact .of_fails rfl

/-- A string is not disturbed, and neither do more rounds change it. -/
theorem readsInside_stringWithin {short long : Nat} (fits : short ≤ long) (read : List Char) :
    ReadsInside least text (stringWithin short read) (stringWithin long read) := by
  -- Each round reads one character, which decides how it goes on.
  induction short generalizing long text read with
  | zero => exact .of_fails rfl
  | succ short ih =>
    obtain ⟨long, rfl⟩ := Nat.exists_eq_add_of_le' fits
    have fewer : short ≤ long + short := Nat.le_add_left short long
    exact .peek (.of_fails rfl) fun c _ => .bind .advance fun _ _ =>
      .ite (fun _ => .pure) fun _ =>
        .ite (fun _ => .bind readsInside_escape fun _ _ => ih fewer _) fun _ =>
          .ite (fun _ => .of_fails rfl) fun _ => ih fewer _

/-- A string is not disturbed. -/
theorem readsInside_stringRest : ReadsInside least text stringRest stringRest :=
  .left (stringWithin · []) fun _ fits => readsInside_stringWithin fits []

/-- A value of a wrong type is refused anyway. -/
theorem readsInside_wrongType (expected : String) :
    ReadsInside least text (wrongType expected : Scan α) (wrongType expected) :=
  .of_fails (run?_wrongType expected)

/-- A text is not disturbed. -/
theorem readsInside_text (expected : String) :
    ReadsInside least text (Scan.text expected) (Scan.text expected) := by
  -- Only a quote begins a text.
  refine .valueStart fun c rest => ?_
  split
  · exact .bind .advance fun _ _ => readsInside_stringRest
  · exact readsInside_wrongType expected

/-- Nothing or a value is not disturbed if the value is not. -/
theorem readsInside_optional {scan : Scan α}
    (value : ∀ {text}, ReadsInside least text scan scan) :
    ReadsInside least text (optional scan) (optional scan) := by
  -- The value is read from the place where the look has stopped.
  have given {text : List Char} :
      ReadsInside least text (do return some (← scan)) (do return some (← scan)) :=
    .bind value fun _ _ => .pure
  refine .bind .skipBlank fun _ _ => .peek given fun c rest => ?_
  split
  · exact .bind .advance fun _ _ => .bind (readsInside_letters _) fun _ _ => .pure
  · exact given

/-- The colon is not disturbed. -/
theorem readsInside_colon : ReadsInside least text colon colon := by
  -- Another character than the colon fails, and so does the end of the text.
  refine .bind .skipBlank fun _ _ => .peek (.of_fails rfl) fun c rest => ?_
  split
  · exact .of_fails rfl
  · exact .advance
  · exact .of_fails rfl

/-- The end of a list is not disturbed. -/
theorem readsInside_finishList : ReadsInside least text finishList finishList := by
  refine .bind .skipBlank fun _ _ => .peek (.of_fails rfl) fun c rest => ?_
  split
  · exact .of_fails rfl
  · exact .advance
  · -- Behind a comma every end is refused, for one reason or another.
    exact .bind .advance fun _ _ => .bind .skipBlank fun _ _ =>
      .peek (.of_fails rfl) fun _ _ => .of_fails (by split <;> rfl)
  · exact .of_fails rfl

/-- The end of an object is not disturbed. -/
theorem readsInside_finishObject : ReadsInside least text finishObject finishObject := by
  -- Nothing but the brace ends an object.
  refine .bind .skipBlank fun _ _ => .peek (.of_fails rfl) fun c rest => ?_
  split
  · exact .of_fails rfl
  · exact .advance
  · exact .of_fails rfl
  · exact .of_fails rfl

/-- The way to the next item is not disturbed. -/
theorem readsInside_nextItem (first : Bool) :
    ReadsInside least text (nextItem first) (nextItem first) := by
  -- A bracket, a comma and the first item are the three ways on.
  refine .bind .skipBlank fun _ _ => .peek (.of_fails rfl) fun c rest => ?_
  split
  · exact .of_fails rfl
  · exact .pure
  · refine .ite (fun _ => .pure) fun _ => .ite (fun _ => ?_) fun _ => .of_fails rfl
    -- Behind a comma there must be an item, so that the end is no way on there.
    refine .bind .advance fun _ _ => .bind .skipBlank fun _ _ =>
      .peek (.of_fails rfl) fun c rest => ?_
    split
    · exact .of_fails rfl
    · exact .of_fails rfl
    · exact .pure

/-- A step that needs a character behind the blanks has found one. -/
theorem exists_of_run?_skipBlank {next : Option Char → Scan α} {value : α}
    (needed : (next none).run? [] = none)
    (read : (do skipBlank; next (← peek)).run? text = some (value, rest)) :
    ∃ c others, others.length < text.length ∧
      (next (some c)).run? (c :: others) = some (value, rest) := by
  -- What the step needs is the character that stops the blanks.
  simp only [run?_bind, run?_skipBlank, run?_peek, Option.bind_some] at read
  have shorter := (text.dropWhile_suffix isBlank).length_le
  cases seen : text.dropWhile isBlank with
  | nil =>
    rw [seen, List.head?_nil, needed] at read
    nomatch read
  | cons c others =>
    rw [seen] at read shorter
    exact ⟨c, others, shorter, read⟩

/-- Every item but the first one comes behind a comma. -/
theorem length_of_run?_nextItem {first : Bool}
    (more : (nextItem first).run? text = some (true, rest)) :
    rest.length < text.length + first.toNat := by
  -- For the first item it is enough that nothing is read twice.
  cases first with
  | true => exact Nat.lt_succ_of_le (ReadsInside.length_le more (readsInside_nextItem true))
  | false =>
    obtain ⟨c, others, shorter, more⟩ := exists_of_run?_skipBlank rfl more
    split at more
    · nomatch more
    · nomatch more
    · rw [if_neg Bool.false_ne_true, run?_ite] at more
      split at more
      · rw [run?_bind, run?_advance, Option.bind_some] at more
        -- The comma has been read, and blanks only shorten what is left.
        obtain ⟨_, others', shortest, more⟩ := exists_of_run?_skipBlank rfl more
        split at more
        · nomatch more
        · nomatch more
        · cases more
          exact Nat.lt_of_le_of_lt shortest shorter
      · nomatch more

/-- The way to the next key and the key are not disturbed. -/
theorem readsInside_nextKey (first : Bool) :
    ReadsInside least text (nextKey first) (nextKey first) := by
  -- A brace ends the object before any key.
  refine .bind .skipBlank fun _ _ => .peek (.of_fails rfl) fun c rest => ?_
  split
  · exact .of_fails rfl
  · exact .pure
  · refine .ite (fun _ => .of_fails rfl) fun _ => ?_
    -- The key is read at once or behind a comma.
    extract_lets key
    have given (rest : List Char) : ReadsInside least rest (key ()) (key ()) := by
      refine .peek (.of_fails rfl) fun c rest => ?_
      split
      · exact .bind .advance fun _ _ => .bind readsInside_stringRest fun _ _ => .pure
      · exact .of_fails rfl
      · exact .of_fails rfl
      · exact .of_fails rfl
    exact .ite (fun _ => .bind .advance fun _ _ => .bind .skipBlank fun _ rest => given rest)
      fun _ => given _

/-- Every key but the first one comes behind a comma. -/
theorem length_of_run?_nextKey {first : Bool} {key : String}
    (more : (nextKey first).run? text = some (some key, rest)) :
    rest.length < text.length + first.toNat := by
  cases first with
  -- For the first key it is enough that nothing is read twice.
  | true => exact Nat.lt_succ_of_le (ReadsInside.length_le more (readsInside_nextKey true))
  | false =>
    obtain ⟨c, others, shorter, more⟩ := exists_of_run?_skipBlank rfl more
    split at more
    · nomatch more
    · nomatch more
    · rw [run?_ite] at more
      split at more
      · nomatch more
      · extract_lets key at more
        -- The comma has been read before the key is looked for.
        rw [if_pos (Bool.not_false), run?_bind, run?_advance, Option.bind_some] at more
        obtain ⟨_, others', shortest, more⟩ := exists_of_run?_skipBlank rfl more
        split at more
        · -- What is left behind the key is shorter than what begins with its quote.
          have kept := ReadsInside.length_le more
            (.bind .advance fun _ _ => .bind readsInside_stringRest fun _ _ => .pure)
          exact Nat.lt_of_le_of_lt (Nat.le_trans kept shortest) shorter
        · nomatch more
        · nomatch more
        · nomatch more

/-- The items of a list are not disturbed where their end is left, and neither do more rounds change
them. -/
theorem readsInside_itemsWithin {scan : Scan α}
    (item : ∀ {least text}, ReadsInside least text scan scan) {short long : Nat}
    (fits : short ≤ long) (first : Bool) (enough : text.length + first.toNat ≤ short) :
    ReadsInside 1 text (itemsWithin scan short first) (itemsWithin scan long first) := by
  -- Every round but the first reads a comma, so that the rounds last as long as the text does.
  induction short generalizing long first text with
  | zero =>
    -- Without a round nothing is read, and the end is not in the text.
    intro items rest yielded
    cases yielded
    exact ⟨Nat.le_refl _, fun filled => absurd filled (by omega)⟩
  | succ short ih =>
    obtain ⟨long, rfl⟩ := Nat.exists_eq_add_of_le' fits
    refine .bind_run (readsInside_nextItem first) fun more rest moved => ?_
    refine .ite (fun wanted => .bind_run item fun value rest' read => ?_) fun _ => .pure
    refine .bind (ih (Nat.le_add_left short long) false ?_) fun _ _ => .pure
    -- What the item leaves is shorter by its comma, which pays for the next round.
    have shorter := ReadsInside.length_le read item
    have shortest := length_of_run?_nextItem (wanted ▸ moved)
    simp only [Bool.toNat_false]
    omega

/-- A list is not disturbed if its items are not. -/
theorem readsInside_list {scan : Scan α} (item : ∀ {least text}, ReadsInside least text scan scan)
    (expected : String) :
    ReadsInside least text (Scan.list scan expected) (Scan.list scan expected) := by
  -- Only a bracket begins a list.
  refine .valueStart fun c rest => ?_
  split
  · exact .enclosed rfl
      (.bind .advance fun _ rest => .left (itemsWithin scan · true) fun _ fits =>
        readsInside_itemsWithin item fits true (Nat.le_refl _))
      fun _ => readsInside_finishList
  · exact readsInside_wrongType expected

/-- The members of an object are not disturbed where their end is left, and neither do more rounds
change them. -/
theorem readsInside_membersWithin {σ : Type} {member : String → σ → Scan σ}
    (each : ∀ {least text} key state,
      ReadsInside least text (member key state) (member key state)) {short long : Nat}
    (fits : short ≤ long) (first : Bool) (enough : text.length + first.toNat ≤ short) (state : σ) :
    ReadsInside 1 text (membersWithin member short first state)
      (membersWithin member long first state) := by
  -- The rounds last as long as those over the items of a list, for the same reason.
  induction short generalizing long first text state with
  | zero =>
    intro built rest yielded
    cases yielded
    exact ⟨Nat.le_refl _, fun filled => absurd filled (by omega)⟩
  | succ short ih =>
    obtain ⟨long, rfl⟩ := Nat.exists_eq_add_of_le' fits
    refine .bind_run (readsInside_nextKey first) fun key rest moved => ?_
    cases key with
    -- Without a further key the object ends.
    | none => exact .pure
    | some key =>
      refine .bind_run (each key state) fun next rest' read =>
        ih (Nat.le_add_left short long) false ?_ next
      -- What the member leaves is shorter by its comma, which pays for the next round.
      have shorter := ReadsInside.length_le read (each key state)
      have shortest := length_of_run?_nextKey moved
      simp only [Bool.toNat_false]
      omega

/-- An object is not disturbed if neither its members nor what is made of them is. -/
theorem readsInside_object {σ : Type} {member : String → σ → Scan σ} {start : σ}
    {finish : σ → Scan α}
    (each : ∀ {least text} key state,
      ReadsInside least text (member key state) (member key state))
    (ends : ∀ {least text} state, ReadsInside least text (finish state) (finish state))
    (expected : String) :
    ReadsInside least text (Scan.object expected member start finish)
      (Scan.object expected member start finish) := by
  -- Only a brace begins an object.
  refine .valueStart fun c rest => ?_
  split
  · -- The members take as many rounds as there are characters left.
    have members {text : List Char} :
        ReadsInside 1 text (members member start) (members member start) :=
      .left (membersWithin member · true start) fun _ fits =>
        readsInside_membersWithin each fits true (Nat.le_refl _) start
    exact .enclosed rfl (.bind .advance fun _ _ => .bind members fun state _ => ends state)
      fun _ => readsInside_finishObject
  · exact readsInside_wrongType _

/-- A string that nobody asked for is not disturbed, and neither do more rounds change it. -/
theorem readsInside_skipStringWithin {short long : Nat} (fits : short ≤ long) :
    ReadsInside least text (skipStringWithin short) (skipStringWithin long) := by
  -- Each round reads one character or one escape.
  induction short generalizing long text with
  | zero => exact .of_fails rfl
  | succ short ih =>
    obtain ⟨long, rfl⟩ := Nat.exists_eq_add_of_le' fits
    have fewer : short ≤ long + short := Nat.le_add_left short long
    refine .peek (.of_fails rfl) fun c _ => .ite (fun _ => .advance) fun _ =>
      .ite (fun _ => .bind .advance fun _ _ => .peek (.of_fails rfl) fun letter _ => ?_) fun _ =>
        .ite (fun _ => .of_fails rfl) fun _ => .bind .advance fun _ _ => ih fewer
    -- The letter behind the backslash is one for digits, one with a meaning, or no escape.
    split
    · exact .of_fails rfl
    · exact .bind .advance fun _ _ => .bind readsInside_hexEscape fun _ _ => ih fewer
    · exact .ite (fun _ => .bind .advance fun _ _ => ih fewer) fun _ => .of_fails rfl

/-- A string that nobody asked for is not disturbed. -/
theorem readsInside_skipString : ReadsInside least text skipString skipString :=
  .left skipStringWithin fun _ fits => readsInside_skipStringWithin fits

/-- An exponent that nobody asked for is not disturbed. -/
theorem readsInside_skipExponent : ReadsInside least text skipExponent skipExponent := by
  -- Neither the end of the text nor that of an object is the letter of an exponent.
  refine .peek .pure fun letter _ => .ite (fun _ => ?_) fun _ => .pure
  refine .bind .advance fun _ _ => .peek (.of_fails rfl) fun sign _ => ?_
  extract_lets power
  have given (rest : List Char) : ReadsInside least rest (power ()) (power ()) := by
    refine .peek (.of_fails rfl) fun c _ => .ite (fun _ => ?_) fun _ => .of_fails rfl
    exact .bind .digits fun _ _ => .pure
  exact .ite (fun _ => .bind .advance fun _ rest => given rest) fun _ => given _

/-- A number that nobody asked for is not disturbed. -/
theorem readsInside_skipNumber : ReadsInside least text skipNumber skipNumber := by
  refine .peek (.of_fails rfl) fun c _ => .ite (fun _ => .of_fails rfl) fun _ => ?_
  -- The part before the point is a zero or several digits, and the others follow it alike.
  extract_lets exponent places
  have given (rest : List Char) : ReadsInside least rest (places ()) (places ()) := by
    refine .peek readsInside_skipExponent fun point _ =>
      .ite (fun _ => .bind .advance fun _ _ => .bind .digits fun _ rest => ?_) fun _ =>
        readsInside_skipExponent
    exact .ite (fun _ => .of_fails rfl) fun _ => readsInside_skipExponent
  refine .ite (fun _ => .bind .advance fun _ _ => .peek (given []) fun _ _ => ?_)
    fun _ => .bind .digits fun _ rest => given rest
  exact .ite (fun _ => .of_fails rfl) fun _ => given _

/-- The start of a value that nobody asked for is not disturbed. -/
theorem readsInside_skipStart : ReadsInside least text skipStart skipStart := by
  -- The first character decides what kind of value is passed over.
  refine .valueStart fun c rest => ?_
  split
  · exact .bind .advance fun _ _ => .bind (readsInside_letters _) fun _ _ => .pure
  · exact .bind .advance fun _ _ => .bind (readsInside_letters _) fun _ _ => .pure
  · exact .bind .advance fun _ _ => .bind (readsInside_letters _) fun _ _ => .pure
  · exact .bind .advance fun _ _ => .bind readsInside_skipString fun _ _ => .pure
  · exact .bind .advance fun _ _ => .pure
  · exact .bind .advance fun _ _ => .pure
  · exact .bind .advance fun _ _ => .bind readsInside_skipNumber fun _ _ => .pure
  · exact .ite (fun _ => .bind readsInside_skipNumber fun _ _ => .pure) fun _ => .of_fails rfl

/-- A key that nobody asked for is not disturbed, and neither is the colon behind it. -/
theorem readsInside_skipKey : ReadsInside least text skipKey skipKey := by
  -- A key begins with its quote, and the colon stands behind it.
  refine .bind .skipBlank fun _ _ => .peek (.of_fails rfl) fun c rest => ?_
  split
  · exact .of_fails rfl
  · refine .bind .advance fun _ _ => .bind readsInside_skipString fun _ _ =>
      .bind .skipBlank fun _ _ => .peek (.of_fails rfl) fun c rest => ?_
    split
    · exact .of_fails rfl
    · exact .advance
    · exact .of_fails rfl
  · exact .of_fails rfl

/-- The ends of containers that nobody asked for are not disturbed. -/
theorem readsInside_skipEnds (comma : Bool) (frames : List Frame) :
    ReadsInside least text (skipEnds comma frames) (skipEnds comma frames) := by
  -- Once no container is open, not even the next character is looked at.
  induction frames generalizing comma text with
  | nil => exact .pure
  | cons frame outer ih =>
    exact .bind .skipBlank fun _ _ => .peek (.of_fails rfl) fun c _ =>
      .ite (fun _ => .bind .advance fun _ _ => .pure) fun _ =>
        .ite (fun _ => .bind .advance fun _ _ => ih true) fun _ =>
          .ite (fun _ => .of_fails rfl) fun _ => .pure

/-- Values that nobody asked for are not disturbed, and neither do more rounds change them. -/
theorem readsInside_skipWithin {short long : Nat} (fits : short ≤ long) (frames : List Frame) :
    ReadsInside least text (skipWithin short frames) (skipWithin long frames) := by
  -- Each round passes over one value that is no container, or opens one.
  induction short generalizing long text frames with
  | zero => exact .of_fails rfl
  | succ short ih =>
    obtain ⟨long, rfl⟩ := Nat.exists_eq_add_of_le' fits
    have fewer : short ≤ long + short := Nat.le_add_left short long
    refine .bind readsInside_skipStart fun opened _ => ?_
    extract_lets onward onward'
    -- What comes after the value depends on the innermost open container.
    have given (pending : List Frame) (rest : List Char) :
        ReadsInside least rest (onward pending) (onward' pending) := by
      match pending with
      | [] => exact .pure
      | .object :: outer => exact .bind readsInside_skipKey fun _ _ => ih fewer _
      | .list :: outer => exact ih fewer _
    cases opened <;> exact .bind (readsInside_skipEnds _ _) given

/-- A value that nobody asked for is not disturbed. -/
theorem readsInside_skipValue : ReadsInside least text skipValue skipValue :=
  .left (skipWithin · []) fun _ fits => readsInside_skipWithin fits []

/-- A member that nobody asked for is not disturbed. -/
theorem readsInside_skipMember : ReadsInside least text skipMember skipMember :=
  .bind readsInside_colon fun _ _ => readsInside_skipValue

/-- A field is not disturbed if its value is not. -/
theorem RecordField.readsInside_of {β : Type} {scan : Scan β}
    (value : ∀ {least text}, ReadsInside least text scan scan) (key : String)
    (presence : Presence) (put : β → α → α) :
    ReadsInside least text (RecordField.of key presence scan put).change
      (RecordField.of key presence scan put).change :=
  .bind value fun _ _ => .pure

/-- The members of a record are not disturbed if its fields are not. -/
theorem readsInside_recordMember {fields : List (RecordField α)}
    (each : ∀ field ∈ fields, ∀ {least text}, ReadsInside least text field.change field.change)
    (key : String) (state : α × List String) :
    ReadsInside least text (recordMember fields key state) (recordMember fields key state) := by
  -- The key decides: an unknown one is passed over, a known one is read once.
  unfold recordMember
  split
  · exact .bind readsInside_skipMember fun _ _ => .pure
  · rename_i field found
    exact .ite (fun _ => .of_fails rfl) fun _ => .bind readsInside_colon fun _ _ =>
      .bind (each field (List.mem_of_find?_eq_some found)) fun _ _ => .pure

/-- The end of a record reads nothing. -/
theorem readsInside_recordEnd (fields : List (RecordField α)) (state : α × List String) :
    ReadsInside least text (recordEnd fields state) (recordEnd fields state) := by
  -- A missing field fails, and nothing is read in either case.
  unfold recordEnd
  split
  · exact .of_fails rfl
  · exact .pure

/-- The fields of a record in a list are not disturbed. -/
theorem readsInside_recordItems {fields : List (RecordField α)}
    (each : ∀ field ∈ fields, ∀ {least text}, ReadsInside least text field.change field.change)
    (expected : String) (index : Nat) (value : α) :
    ReadsInside least text (recordItems expected index fields value)
      (recordItems expected index fields value) := by
  -- Each field takes the next item, or is passed over when there is none.
  induction fields generalizing index value text with
  | nil => exact .pure
  | cons field fields ih =>
    have others {text : List Char} (index : Nat) (value : α) :
        ReadsInside least text (recordItems expected index fields value)
          (recordItems expected index fields value) :=
      ih (fun other among => each other (.tail _ among)) index value
    exact .bind (readsInside_nextItem _) fun _ _ =>
      .ite (fun _ => .bind (each field (.head _)) fun _ _ => others _ _) fun _ =>
        .ite (fun _ => others _ _) fun _ => .of_fails rfl

/-- A record is not disturbed if its fields are not. -/
theorem readsInside_record {fields : List (RecordField α)}
    (each : ∀ field ∈ fields, ∀ {least text}, ReadsInside least text field.change field.change)
    (name : String) (blank : α) :
    ReadsInside least text (record name fields blank) (record name fields blank) := by
  refine .valueStart fun c rest => ?_
  -- A list gives the fields in their order, and an object under their keys.
  split
  · exact .enclosed rfl (.bind .advance fun _ _ => readsInside_recordItems each _ 0 blank)
      fun _ => readsInside_finishList
  · exact readsInside_object (readsInside_recordMember each) (readsInside_recordEnd fields) _

end

end ContentClasses.Json
