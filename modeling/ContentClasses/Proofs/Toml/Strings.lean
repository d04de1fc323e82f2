import ContentClasses.Proofs.Toml.Scan
import ContentClasses.Toml.Strings
import ContentClasses.Toml.Written

/-! Every written text is read back, whatever quotes it is written in. -/

namespace ContentClasses.Toml

open Scan

/-- Whether letters after a backslash are an escape of a character, and no joint of two lines. -/
structure Escapes (letters : List Char) (c : Char) : Prop where
  read : ∀ rest, escape (letters ++ rest) = some (c, rest)
  inLine : ∀ rest, lineJoint (letters ++ rest) = none

/-- An escape with a letter other than a blank or the end of a line joins no lines. -/
theorem lineJoint_cons {c : Char} (plain : isBlank c = false) (feed : c ≠ '\n')
    (carriage : c ≠ '\r') (rest : List Char) : lineJoint (c :: rest) = none := by
  simp [lineJoint, plain, newline_eq_none feed carriage]

/-- A double quote is an escape of itself. -/
theorem escapes_quote : Escapes ['\x22'] '\x22' where
  read rest := by simp [escape]
  inLine rest := lineJoint_cons (by decide) (by decide) (by decide) rest

/-- A numbered control character is an escape of itself. -/
theorem escapes_numbered {c : Char} (control : c.toNat < 0x20 ∨ c = '\x7f') :
    ∃ letters, numbered c = '\\' :: letters ∧ Escapes letters c := by
  -- There are few control characters, and each of them is tried.
  have all : ((0x7f :: List.range 0x20).all fun code =>
      let digits := ['0', '0', upperHex (code / 16), upperHex (code % 16)]
      digits.all isHexDigit && digitsValue 16 digits = code && isScalar code) = true := by
    decide
  have among : c.toNat ∈ 0x7f :: List.range 0x20 := by
    rcases control with low | rfl
    · simp [low]
    · decide
  have spelled := List.all_eq_true.mp all c.toNat among
  simp only [Bool.and_eq_true, List.all_eq_true, decide_eq_true_eq] at spelled
  obtain ⟨⟨hexadecimal, value⟩, scalar⟩ := spelled
  refine ⟨_, rfl, fun rest => ?_, fun rest => lineJoint_cons (by decide) (by decide) (by decide) _⟩
  -- The four digits are read as the number of the character.
  have read := exactly_append hexadecimal rest
  simp only [List.length_cons, List.length_nil, Nat.zero_add, Nat.reduceAdd, List.cons_append,
    List.nil_append] at read
  simp [escape, numericEscape, read, value, scalar, Char.ofNat_toNat]

/-- A character between double quotes is an escape of itself, or stands for itself. -/
theorem basicChar_cases (c : Char) :
    (∃ letters, basicChar c = '\\' :: letters ∧ Escapes letters c) ∨
      (basicChar c = [c] ∧ c ≠ '\\' ∧ isVisible c = true) := by
  unfold basicChar
  split
  case h_6 _ _ _ _ backslash =>
    -- Behind the short escapes, only control characters need an escape.
    by_cases control : c.toNat < 0x20 ∨ c = '\x7f'
    · simp only [Bool.or_eq_true, decide_eq_true_eq, control, if_true]
      exact .inl (escapes_numbered control)
    · simp only [Bool.or_eq_true, decide_eq_true_eq, control, if_false]
      refine .inr ⟨trivial, backslash, ?_⟩
      simp only [not_or, Nat.not_lt] at control
      have visible : ' ' ≤ c := control.1
      simp [isVisible, visible, control.2]
  all_goals
    -- The short escapes are one letter each.
    exact .inl ⟨_, rfl, fun rest => by simp [escape],
      fun rest => lineJoint_cons (by decide) (by decide) (by decide) rest⟩

/-- A text on one line begins with an escape of its first character, or with that character. -/
theorem basicLine_cons (c : Char) (text : List Char) :
    (∃ letters, basicLine (c :: text) = '\\' :: (letters ++ basicLine text) ∧ Escapes letters c) ∨
      (basicLine (c :: text) = c :: basicLine text ∧ c ≠ '\x22' ∧ c ≠ '\\' ∧
        isVisible c = true) := by
  simp only [basicLine, List.flatMap_cons]
  -- On one line, quotes and line feeds are escaped as well.
  by_cases quote : c = '\x22'
  · subst quote
    exact .inl ⟨['\x22'], rfl, escapes_quote⟩
  by_cases feed : c = '\n'
  · subst feed
    exact .inl ⟨['n'], rfl, fun rest => by simp [escape],
      fun rest => lineJoint_cons (by decide) (by decide) (by decide) rest⟩
  simp only [quote, feed, if_false]
  rcases basicChar_cases c with ⟨letters, escaped, reads⟩ | ⟨plain, backslash, visible⟩
  · exact .inl ⟨letters, by rw [escaped, List.cons_append], reads⟩
  · exact .inr ⟨by rw [plain, List.singleton_append], quote, backslash, visible⟩

/-- A basic string on one line is read up to its closing quote. -/
theorem basicWithin_basicLine (text : List Char) {budget : Nat}
    (enough : (basicLine text).length < budget) (read rest : List Char) :
    basicWithin budget read (basicLine text ++ '\x22' :: rest) =
      some (String.ofList (read.reverse ++ text), rest) := by
  -- Each round reads one character, however it is written.
  induction text generalizing budget read with
  | nil =>
    obtain ⟨budget, rfl⟩ := Nat.exists_eq_succ_of_ne_zero (Nat.ne_zero_of_lt enough)
    simp [basicLine, basicWithin]
  | cons c text ih =>
    obtain ⟨budget, rfl⟩ := Nat.exists_eq_succ_of_ne_zero (Nat.ne_zero_of_lt enough)
    rcases basicLine_cons c text with ⟨letters, same, escapes⟩ | ⟨same, quote, backslash, visible⟩
    · rw [same, List.length_cons, List.length_append] at enough
      have others := ih (show (basicLine text).length < budget by omega) (c :: read)
      -- An escape is read as its character.
      simp [same, basicWithin, escapes.read, others]
    · rw [same, List.length_cons] at enough
      have others := ih (show (basicLine text).length < budget by omega) (c :: read)
      -- Any other character is read as it is.
      simp [same, basicWithin, quote, backslash, visible, others]

/-- A text between double quotes on one line is read back. -/
theorem basic_onOneLine (text rest : List Char) :
    basic (onOneLine text ++ rest) = some (String.ofList text, rest) := by
  -- There are as many rounds as characters, which is enough.
  have enough : (basicLine text).length < (basicLine text ++ '\x22' :: rest).length + 1 := by
    rw [List.length_append]
    omega
  have read := basicWithin_basicLine text enough [] rest
  simpa [basic, onOneLine] using read

/-- A text of visible characters without single quotes is read back from between two of them. -/
theorem literal_append {text : List Char} (plain : ∀ c ∈ text, isVisible c = true ∧ c ≠ '\'')
    (rest : List Char) :
    literal ('\'' :: (text ++ '\'' :: rest)) = some (String.ofList text, rest) := by
  -- No character of the text ends it.
  have all : ∀ c ∈ text, (isVisible c && decide (c ≠ '\'')) = true := fun c among => by
    simp [plain c among]
  simp only [literal, bind_apply, char_cons, if_true, Option.bind_some, run_apply,
    List.takeWhile_append_of_pos all, List.dropWhile_append_of_pos all]
  simp

/-- Texts between threefold quotes, with what they stand for, after so many quotes just before them:
no three quotes come together, and only double quotes let backslashes escape. -/
inductive LongContent (quote : Char) (escapes : Bool) :
    (quotes : Nat) → List Char → List Char → Prop where
  | done {quotes : Nat} (few : quotes ≤ 2) : LongContent quote escapes quotes [] []
  | quote {quotes : Nat} {content text : List Char} (few : quotes < 2)
      (rest : LongContent quote escapes (quotes + 1) content text) :
      LongContent quote escapes quotes (quote :: content) (quote :: text)
  | plain {quotes : Nat} {c : Char} {content text : List Char} (few : quotes ≤ 2)
      (other : c ≠ quote) (unescaped : escapes = true → c ≠ '\\')
      (visible : isVisible c = true ∨ c = '\n') (rest : LongContent quote escapes 0 content text) :
      LongContent quote escapes quotes (c :: content) (c :: text)
  | escaped {quotes : Nat} {c : Char} {letters content text : List Char} (few : quotes ≤ 2)
      (other : '\\' ≠ quote) (allowed : escapes = true) (reads : Escapes letters c)
      (rest : LongContent quote escapes 0 content text) :
      LongContent quote escapes quotes ('\\' :: (letters ++ content)) (c :: text)

/-- A run of quotes goes up to what is no quote. -/
theorem run_quotes {quote : Char} {rest : List Char} (ends : rest.head? ≠ some quote)
    (quotes : Nat) :
    run (· = quote) (List.replicate quotes quote ++ rest) =
      some (List.replicate quotes quote, rest) := by
  induction quotes with
  | zero => cases rest <;> simp_all
  | succ quotes ih => simp_all [List.replicate_succ]

/-- A run of quotes belongs to a string of several lines, or ends it. -/
theorem longWithin_run {quote : Char} {escapes : Bool} {rest : List Char}
    (ends : rest.head? ≠ some quote) (budget quotes : Nat) (read : List Char) :
    longWithin quote escapes (budget + 1) read (List.replicate (quotes + 1) quote ++ rest) =
      if quotes + 1 < 3 then
        longWithin quote escapes budget (List.replicate (quotes + 1) quote ++ read) rest
      else match closing? (quotes + 1) with
        | some inner => some (String.ofList (List.replicate inner quote ++ read).reverse, rest)
        | none => none := by
  -- The quotes are counted at once, and three or more of them are the end.
  have first : (List.replicate (quotes + 1) quote ++ rest).head? = some quote := rfl
  simp only [longWithin, bind_apply, peek_apply, Option.bind_some, first, if_true,
    run_quotes ends (quotes + 1), List.length_replicate, branch_apply]
  split
  · rfl
  · cases closing? (quotes + 1) <;> rfl

/-- Quotes that are too few to end a string belong to it. -/
theorem longWithin_quotes {quote c : Char} {escapes : Bool} {quotes : Nat} (few : quotes ≤ 2)
    (other : c ≠ quote) (budget : Nat) (read rest : List Char) :
    longWithin quote escapes (budget + min quotes 1) read
        (List.replicate quotes quote ++ c :: rest) =
      longWithin quote escapes budget (List.replicate quotes quote ++ read) (c :: rest) := by
  cases quotes with
  | zero => rfl
  | succ quotes =>
    rw [Nat.min_eq_right (by omega), longWithin_run (by simpa using other), if_pos (by omega)]

/-- A string of several lines is read up to its closing quotes. -/
theorem longWithin_content {quote : Char} {escapes : Bool} {quotes : Nat} {content text : List Char}
    (reads : LongContent quote escapes quotes content text) {budget : Nat}
    (enough : quotes + content.length < budget) {rest : List Char}
    (ends : rest.head? ≠ some quote) (read : List Char) :
    longWithin quote escapes budget read
        (List.replicate quotes quote ++ (content ++ quote :: quote :: quote :: rest)) =
      some (String.ofList (read.reverse ++ (List.replicate quotes quote ++ text)), rest) := by
  -- The quotes counted so far stand in front of the text, and are read with what ends their run.
  induction reads generalizing budget read with
  | @done quotes few =>
    obtain ⟨budget, rfl⟩ := Nat.exists_eq_succ_of_ne_zero (Nat.ne_zero_of_lt enough)
    have last : List.replicate quotes quote ++ ([] ++ quote :: quote :: quote :: rest) =
        List.replicate (quotes + 2 + 1) quote ++ rest := by
      rw [List.nil_append,
        show quote :: quote :: quote :: rest = List.replicate 3 quote ++ rest from rfl,
        ← List.append_assoc, List.replicate_append_replicate]
    -- Up to two quotes in front of the closing ones belong to the text.
    have kept : closing? (quotes + 2 + 1) = some quotes := if_pos (by simp; omega)
    rw [last, longWithin_run ends, if_neg (by omega), kept]
    simp
  | @quote quotes content text few _ ih =>
    rw [List.length_cons] at enough
    have more := ih (show quotes + 1 + content.length < budget by omega) read
    -- One more quote is counted, and nothing is read yet.
    simpa [List.replicate_succ'] using more
  | @plain quotes c content text few other unescaped visible _ ih =>
    rw [List.length_cons] at enough
    obtain ⟨budget, rfl⟩ : ∃ left, budget = left + 1 + min quotes 1 :=
      ⟨budget - 1 - min quotes 1, by omega⟩
    have more := ih (show 0 + content.length < budget by omega)
      (c :: (List.replicate quotes quote ++ read))
    have letter : ¬(c = '\\' ∧ escapes = true) := fun both => unescaped both.2 both.1
    -- The run of quotes ends with another character, and is read as text.
    rw [List.cons_append, longWithin_quotes few other]
    simp only [List.replicate_zero, List.nil_append, List.reverse_cons, List.reverse_append,
      List.reverse_replicate, List.append_assoc] at more ⊢
    rcases visible with visible | rfl
    · simp [longWithin, other, letter, visible, more]
    · have hidden : isVisible '\n' = false := by decide
      simp [longWithin, other, hidden, more]
  | @escaped quotes c letters content text few other allowed reads _ ih =>
    subst allowed
    rw [List.length_cons, List.length_append] at enough
    obtain ⟨budget, rfl⟩ : ∃ left, budget = left + 1 + min quotes 1 :=
      ⟨budget - 1 - min quotes 1, by omega⟩
    have more := ih (show 0 + content.length < budget by omega)
      (c :: (List.replicate quotes quote ++ read))
    simp only [List.replicate_zero, List.nil_append, List.reverse_cons, List.reverse_append,
      List.reverse_replicate, List.append_assoc] at more ⊢
    rw [List.cons_append, longWithin_quotes few other]
    -- An escape ends the run as well, and is read as its character.
    simp [longWithin, other, reads.inLine, reads.read, more]

/-- A text with every third quote escaped has no three quotes together. -/
theorem longContent_basicLines (text : List Char) {quotes : Nat} (few : quotes ≤ 2) :
    LongContent '\x22' true quotes (basicLines quotes text) text := by
  induction text generalizing quotes with
  -- Without characters, the run that is counted is the end.
  | nil => exact .done few
  | cons c text ih =>
    rw [basicLines]
    -- The count of quotes starts again behind every other character and behind an escape.
    split
    · rename_i quote
      subst quote
      split
      · exact @LongContent.escaped _ _ _ _ ['\x22'] _ _ few (by decide) rfl escapes_quote
          (ih (Nat.zero_le 2))
      · exact .quote (by omega) (ih (by omega))
    · rename_i other
      have later := ih (Nat.zero_le 2)
      split
      · rename_i feed
        subst feed
        exact .plain few other (fun _ => by decide) (.inr rfl) later
      · rcases basicChar_cases c with ⟨letters, escaped, reads⟩ | ⟨plain, backslash, visible⟩
        · rw [escaped, List.cons_append]
          exact .escaped few (by decide) rfl reads later
        · rw [plain, List.singleton_append]
          exact .plain few other (fun _ => backslash) (.inl visible) later

/-- How a run of a character and the longest one so far go on. -/
def runStep (c : Char) (state : Nat × Nat) (next : Char) : Nat × Nat :=
  let run := if next = c then state.1 + 1 else 0
  (run, max state.2 run)

/-- The longest run so far does not get shorter. -/
theorem le_foldl_runStep (c : Char) (text : List Char) (state : Nat × Nat) :
    state.2 ≤ (text.foldl (runStep c) state).2 := by
  induction text generalizing state with
  | nil => exact Nat.le_refl _
  | cons next text ih => exact Nat.le_trans (Nat.le_max_left ..) (ih (runStep c state next))

/-- A character that is there makes a run. -/
theorem foldl_runStep_pos {c : Char} {text : List Char} (among : c ∈ text) (state : Nat × Nat) :
    0 < (text.foldl (runStep c) state).2 := by
  -- The run that the character makes or goes on with is counted from then on.
  induction text generalizing state with
  | nil => nomatch among
  | cons next text ih =>
    rcases List.mem_cons.mp among with rfl | later
    · refine Nat.lt_of_lt_of_le ?_ (le_foldl_runStep c text _)
      simp only [runStep, if_true]
      omega
    · exact ih later _

/-- A character without a run is not there. -/
theorem not_mem_of_longestRun {c : Char} {text : List Char} (none : longestRun c text = 0) :
    c ∉ text :=
  fun among => Nat.ne_of_gt (foldl_runStep_pos among (0, 0)) none

/-- What is no control character can be seen or is a line feed. -/
theorem isVisible_of_not_isControl {c : Char} (plain : isControl c = false) :
    isVisible c = true ∨ c = '\n' := by
  -- Below the blank there are only the tabulator and the line feed.
  simp only [isControl, Bool.or_eq_false_iff, Bool.and_eq_false_iff, decide_eq_false_iff_not,
    Nat.not_lt, Decidable.not_not, ne_eq] at plain
  obtain ⟨(low | tab) | feed, delete⟩ := plain
  · have visible : ' ' ≤ c := low
    simp [isVisible, visible, delete]
  · simp [isVisible, tab]
  · exact .inr feed

/-- A text without controls goes on between three single quotes as long as its runs of such quotes
are short. -/
theorem longContent_of_runStep {text : List Char} (plain : ∀ c ∈ text, isControl c = false)
    {state : Nat × Nat} (bound : state.1 ≤ state.2)
    (runs : (text.foldl (runStep '\'') state).2 ≤ 2) :
    LongContent '\'' false state.1 text text := by
  induction text generalizing state with
  -- At the end, the last run is one of those that are short.
  | nil => exact .done (Nat.le_trans bound runs)
  | cons next text ih =>
    have others := fun other among => plain other (.tail _ among)
    have later := ih others (Nat.le_max_right state.2 _) runs
    have longest := Nat.le_trans (le_foldl_runStep '\'' text (runStep '\'' state next)) runs
    simp only [runStep] at later longest
    -- A quote makes the run longer, and any other character ends it.
    by_cases quote : next = '\''
    · subst quote
      rw [if_pos rfl] at later longest
      exact .quote (by omega) later
    · rw [if_neg quote] at later
      exact .plain (by omega) quote (fun false => nomatch false)
        (isVisible_of_not_isControl (plain next (.head _))) later

/-- A text without controls and long runs of single quotes can stand between three of them. -/
theorem longContent_plain {text : List Char} (plain : ∀ c ∈ text, isControl c = false)
    (runs : longestRun '\'' text ≤ 2) : LongContent '\'' false 0 text text :=
  @longContent_of_runStep text plain (0, 0) (Nat.le_refl 0) runs

/-- Text after threefold quotes begins with a line feed only if what it stands for does. -/
theorem LongContent.newline_eq_none {quote : Char} {escapes : Bool} {quotes : Nat}
    {content text : List Char} (reads : LongContent quote escapes quotes content text)
    (kind : quote = '\x22' ∨ quote = '\'') (begins : text.head? ≠ some '\n') (rest : List Char) :
    newline (content ++ quote :: rest) = none := by
  have apart : quote ≠ '\n' ∧ quote ≠ '\r' := by
    rcases kind with rfl | rfl <;> decide
  -- What stands first is a quote, a backslash or a character of the text.
  cases reads with
  | done _ => exact Scan.newline_eq_none apart.1 apart.2
  | quote _ _ => exact Scan.newline_eq_none apart.1 apart.2
  | escaped _ _ _ _ _ => exact Scan.newline_eq_none (by decide) (by decide)
  | @plain _ c _ _ _ _ _ visible _ =>
    have feed : c ≠ '\n' := by simpa using begins
    have carriage : c ≠ '\r' := by
      rintro rfl
      rcases visible with visible | same
      · revert visible
        decide
      · exact feed same
    exact Scan.newline_eq_none feed carriage

/-- A text between threefold quotes is read back. -/
theorem string_threefold {quote : Char} {escapes : Bool} {content text : List Char}
    (kind : (quote, escapes) = ('\x22', true) ∨ (quote, escapes) = ('\'', false))
    (reads : LongContent quote escapes 0 content text) {rest : List Char}
    (ends : rest.head? ≠ some quote) :
    string (threefold quote text content ++ rest) = some (String.ofList text, rest) := by
  -- Behind the opening, the content is read up to its closing quotes.
  have whole (budget : Nat) (enough : content.length < budget) :
      longWithin quote escapes budget [] (content ++ quote :: quote :: quote :: rest) =
        some (String.ofList text, rest) := by
    have read := longWithin_content reads (show 0 + content.length < budget by omega) ends []
    simpa using read
  have opening : long quote escapes
      (quote :: quote :: quote :: ((if text.contains '\n' then ['\n'] else []) ++
        (content ++ quote :: quote :: quote :: rest))) = some (String.ofList text, rest) := by
    have enough : content.length < (content ++ quote :: quote :: quote :: rest).length + 1 := by
      rw [List.length_append]
      omega
    -- A line feed right behind the opening quotes does not belong to the text.
    by_cases several : text.contains '\n' = true
    · simp only [long, word, several, if_true]
      simpa using whole _ enough
    · have begins : text.head? ≠ some '\n' := fun first =>
        several (by simpa using List.mem_of_mem_head? first)
      have known : quote = '\x22' ∨ quote = '\'' :=
        kind.imp (congrArg Prod.fst) (congrArg Prod.fst)
      have direct := reads.newline_eq_none known begins (quote :: quote :: rest)
      simp only [long, word, several]
      simpa [direct] using whole _ enough
  rcases kind with same | same <;> cases same <;>
    simpa [string, threefold] using opening

/-- A double quote without two more begins a basic string. -/
theorem string_eq_basic {rest : List Char} (few : rest.take 2 ≠ ['\x22', '\x22']) :
    string ('\x22' :: rest) = basic ('\x22' :: rest) := by
  simp only [string, bind_apply, get_apply, Option.bind_some, List.take_succ_cons]
  refine congrFun (g := basic) ?_ _
  split <;> simp_all

/-- A text between double quotes on one line is read back as a string. -/
theorem string_onOneLine (text : List Char) {rest : List Char} (ends : rest.head? ≠ some '\x22') :
    string (onOneLine text ++ rest) = some (String.ofList text, rest) := by
  have read := basic_onOneLine text rest
  rw [← read]
  refine string_eq_basic ?_
  -- No third quote comes at once, neither behind an empty text nor in front of another one.
  cases text with
  | nil => cases rest <;> simp_all [basicLine]
  | cons c text =>
    rcases basicLine_cons c text with ⟨letters, same, _⟩ | ⟨same, quote, _⟩ <;> simp_all

/-- A single quote without two more begins a literal string. -/
theorem string_eq_literal {rest : List Char} (few : rest.take 2 ≠ ['\'', '\'']) :
    string ('\'' :: rest) = literal ('\'' :: rest) := by
  simp only [string, bind_apply, get_apply, Option.bind_some, List.take_succ_cons]

/-- Every written text is read back. -/
theorem string_writtenText (text : List Char) {rest : List Char} (double : rest.head? ≠ some '\x22')
    (single : rest.head? ≠ some '\'') :
    string (writtenText text ++ rest) = some (String.ofList text, rest) := by
  -- Threefold double quotes can hold every text.
  have multi := string_threefold (.inl rfl) (longContent_basicLines text (Nat.zero_le 2)) double
  -- The quotes are chosen by what is in the text, and each choice is read back.
  simp only [writtenText]
  split
  · exact string_onOneLine text double
  split
  · rename_i other plain
    simp only [Bool.and_eq_true, Bool.not_eq_true', List.any_eq_false, decide_eq_true_eq,
      List.contains_eq_mem, decide_eq_false_iff_not] at plain
    obtain ⟨⟨visible, none⟩, oneLine⟩ := plain
    -- Without a single quote and in one line, the text stands as it is.
    have single := not_mem_of_longestRun none
    have letters (c : Char) (among : c ∈ text) : isVisible c = true ∧ c ≠ '\'' := by
      refine ⟨?_, fun quote => single (quote ▸ among)⟩
      exact (isVisible_of_not_isControl (by simpa using visible c among)).resolve_right
        fun feed => oneLine (feed ▸ among)
    cases text with
    | nil => exact absurd rfl other
    | cons c text =>
      have first : (c :: text ++ '\'' :: rest).take 2 ≠ ['\'', '\''] := by
        have apart := (letters c (.head _)).2
        simp [apart]
      have read := literal_append letters rest
      rw [← string_eq_literal first] at read
      simpa using read
  split
  · exact multi
  split
  · rename_i plain
    simp only [Bool.and_eq_true, Bool.not_eq_true', List.any_eq_false, decide_eq_true_eq] at plain
    exact string_threefold (.inr rfl)
      (longContent_plain (fun c among => by simpa using plain.1 c among) plain.2) single
  split
  · exact multi
  · exact string_onOneLine text double

end ContentClasses.Toml
