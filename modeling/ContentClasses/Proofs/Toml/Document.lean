import ContentClasses.Proofs.Toml.Values
import ContentClasses.Toml.Document

/-! Written tables are read back as the lines that say what they hold. -/

namespace ContentClasses.Toml

open Scan

/-- Whether a name can be a part of a key without quotes. -/
def isBare (name : String) : Bool :=
  !name.toList.isEmpty && name.toList.all isBareKey

/-- A name that can be a part of a key begins with a character of keys, as all others are. -/
theorem exists_cons_of_isBare {name : String} (bare : isBare name = true) :
    ∃ first others, name.toList = first :: others ∧ ∀ c ∈ first :: others, isBareKey c = true := by
  simp only [isBare, Bool.and_eq_true, List.all_eq_true] at bare
  cases letters : name.toList with
  | nil => simp [letters] at bare
  | cons first others => exact ⟨first, others, rfl, letters ▸ bare.2⟩

/-- Whether a text does not go on with a name. -/
def EndsName (rest : List Char) : Prop :=
  ∀ c ∈ rest.head?, isBareKey c = false

/-- A character of a name is a token, and neither a quote nor a bracket. -/
theorem isBareKey_apart {c : Char} (bare : isBareKey c = true) :
    IsToken c ∧ c ≠ '\x22' ∧ c ≠ '\'' ∧ c ≠ '[' := by
  -- Each of the other characters is no part of a name.
  have apart (other : Char) (special : isBareKey other = false) : c ≠ other := by
    rintro rfl
    exact absurd bare (by simp [special])
  have blank : isBlank c = false := by
    simp [isBlank, apart ' ' (by decide), apart '\t' (by decide)]
  exact ⟨⟨blank, apart '#' (by decide), apart '\n' (by decide), apart '\r' (by decide)⟩,
    apart '\x22' (by decide), apart '\'' (by decide), apart '[' (by decide)⟩

/-- A name is read as a part of a key, with the blanks behind it. -/
theorem spacedKey_bare {name : String} (bare : isBare name = true) {rest : List Char}
    (ends : EndsName rest) :
    spacedKey (name.toList ++ rest) = some (name, rest.dropWhile isBlank) := by
  obtain ⟨first, others, letters, all⟩ := exists_cons_of_isBare bare
  have whole := takeWhile_append_of_head all ends
  have left := dropWhile_append_of_head all ends
  have same : String.ofList (first :: others) = name := by rw [← letters, String.ofList_toList]
  obtain ⟨token, double, single, _⟩ := isBareKey_apart (all first (.head _))
  rw [List.cons_append] at whole left
  -- The name goes up to the first character that no name has.
  have read : simpleKey (first :: (others ++ rest)) = some (name, rest) := by
    simp [simpleKey, double, single, whole, left, same]
  simp [letters, spacedKey, token.blank, read]

/-- Whether names make a key without quotes. -/
def isKey (parts : List String) : Bool := parts.all isBare && parts.length ≤ maxDepth

/-- The written form of a key with dots. -/
def dottedKey (first : String) (others : List String) : List Char :=
  first.toList ++ others.flatMap fun part => '.' :: part.toList

/-- A key with dots is read part by part. -/
theorem key_dotted {first : String} {others : List String}
    (plain : isKey (first :: others) = true) (rest : List Char) (ends : EndsName rest)
    (last : (rest.dropWhile isBlank).head? ≠ some '.') :
    key (dottedKey first others ++ rest) =
      some (((first :: others).dropLast, (first :: others).getLast?.getD first),
        rest.dropWhile isBlank) := by
  simp only [isKey, Bool.and_eq_true, List.all_eq_true, decide_eq_true_eq] at plain
  obtain ⟨bare, few⟩ := plain
  -- A dot ends a name and is no blank, so that every part leaves the text as the next one needs it.
  have begins (parts : List String) :
      EndsName ((parts.flatMap fun part => '.' :: part.toList) ++ rest) := by
    cases parts with
    | nil => simpa using ends
    | cons part parts => simp [EndsName]; decide
  -- The parts are read from the first to the last, in front of what follows the key.
  have parts : ∀ parts ⊆ others, Repeats (do
        char '.'
        spacedKey)
      (((parts.flatMap fun part => '.' :: part.toList) ++ rest).dropWhile isBlank) parts
      (rest.dropWhile isBlank) := by
    intro parts included
    induction parts with
    | nil =>
      refine .done ?_
      cases left : rest.dropWhile isBlank with
      | nil => simp [left]
      | cons c left' =>
        simp only [left, List.head?_cons, ne_eq, Option.some.injEq] at last
        simp [left, last]
    | cons part parts ih =>
      have dot : isBlank '.' = false := by decide
      have read := spacedKey_bare (bare part (.tail _ (included (.head _)))) (begins parts)
      refine .next (by simpa [dot] using read) ?_ (ih fun _ among => included (.tail _ among))
      have shorter := (List.dropWhile_sublist isBlank
        (l := (parts.flatMap fun part => '.' :: part.toList) ++ rest)).length_le
      simp only [List.flatMap_cons, List.cons_append, List.append_assoc, List.dropWhile_cons, dot,
        List.length_append] at shorter ⊢
      simp only [Bool.false_eq_true, if_false, List.length_cons, List.length_append]
      omega
  -- The first name is read before any dot.
  have read := spacedKey_bare (bare first (.head _)) (begins others)
  have whole := (parts others (List.Subset.refl others)).many_apply
  rw [dottedKey, List.append_assoc]
  simp only [key, bind_apply, read, whole, Option.bind_some, if_neg (Nat.not_lt.mpr few)]
  rfl

/-- An assignment in a table as it is written. -/
structure Assignment where
  key : String
  written : List Char
  content : Value

namespace Assignment

/-- The line that an assignment takes. -/
def text (assignment : Assignment) : List Char :=
  assignment.key.toList ++ ' ' :: '=' :: ' ' :: (assignment.written ++ ['\n'])

/-- What the line of an assignment says. -/
def line (assignment : Assignment) : Line := .assignment [] assignment.key assignment.content

/-- Whether an assignment is written in a form that is read back. -/
structure Faithful (assignment : Assignment) : Prop where
  bare : isBare assignment.key = true
  begins : ∀ c ∈ assignment.written.head?, isBlank c = false
  filled : assignment.written ≠ []
  read : ∀ rest, value (assignment.written ++ '\n' :: rest) =
    some (assignment.content, '\n' :: rest)

end Assignment

/-- The end of a line ends what is on it. -/
theorem lineRest_feed (rest : List Char) : lineRest ('\n' :: rest) = some ((), rest) := by
  have feed : isBlank '\n' = false := by decide
  simp [lineRest, comment, lineEnd, feed]

/-- Reads a line that assigns a value. -/
def pairLine : Scan Line := do
  let ((path, last), content) ← pair value
  lineRest
  return .assignment path last content

/-- Reads a line that opens a table. -/
def headerLine : Scan Line := do
  char '['
  let (path, last) ← key
  char ']'
  lineRest
  return .header path last

/-- A line without a bracket in front assigns a value. -/
theorem line_eq_pairLine {first : Char} (apart : first ≠ '[') (others : List Char) :
    Scan.line (first :: others) = pairLine (first :: others) := by
  simp only [Scan.line, bind_apply, get_apply, Option.bind_some, List.take_succ_cons]
  refine congrFun (g := pairLine) ?_ _
  split <;> simp_all [pairLine]

/-- A line with one bracket in front opens a table. -/
theorem line_eq_headerLine {second : Char} (apart : second ≠ '[') (others : List Char) :
    Scan.line ('[' :: second :: others) = headerLine ('[' :: second :: others) := by
  simp only [Scan.line, bind_apply, get_apply, Option.bind_some, List.take_succ_cons]
  refine congrFun (g := headerLine) ?_ _
  split <;> simp_all [headerLine]

/-- The line of an assignment begins with a token, and is read back. -/
theorem line_assignment {assignment : Assignment} (faithful : assignment.Faithful)
    (rest : List Char) :
    ∃ c others, assignment.text ++ rest = c :: others ∧ IsToken c ∧ rest.length ≤ others.length ∧
      Scan.line (c :: others) = some (assignment.line, rest) := by
  obtain ⟨bare, begins, filled, read⟩ := faithful
  have plain : isKey [assignment.key] = true := by
    simp only [isKey, List.all_cons, bare, List.all_nil]
    rfl
  -- The key is one bare name, and ends at the blank behind it.
  have name := key_dotted plain
    (' ' :: '=' :: ' ' :: (assignment.written ++ '\n' :: rest)) (by simp [EndsName]; decide)
    (by simp [isBlank])
  -- The value begins with no blank.
  have content : (assignment.written ++ '\n' :: rest).dropWhile isBlank =
      assignment.written ++ '\n' :: rest := by
    cases written : assignment.written with
    | nil => exact absurd written filled
    | cons c others => simp [begins c (by simp [written])]
  have equals : isBlank '=' = false := by decide
  have space : isBlank ' ' = true := by decide
  -- The key, the equals sign and the value are read in their order.
  have found : pair value (assignment.text ++ rest) =
      some ((([], assignment.key), assignment.content), '\n' :: rest) := by
    simp only [dottedKey, List.flatMap_nil, List.append_nil] at name
    simp [Assignment.text, pair, name, equals, space, content, read]
  -- The first letter of the name shows that the line is an assignment.
  obtain ⟨first, others, letters, all⟩ := exists_cons_of_isBare bare
  obtain ⟨token, _, _, apart⟩ := isBareKey_apart (all first (.head _))
  have same : assignment.text ++ rest =
      first :: (others ++ ' ' :: '=' :: ' ' :: (assignment.written ++ '\n' :: rest)) := by
    simp [Assignment.text, letters]
  have shorter : rest.length ≤
      (others ++ ' ' :: '=' :: ' ' :: (assignment.written ++ '\n' :: rest)).length := by
    simp only [List.length_append, List.length_cons]
    omega
  refine ⟨_, _, same, token, shorter, ?_⟩
  rw [line_eq_pairLine apart, ← same]
  simp [pairLine, found, lineRest_feed, Assignment.line]

/-- A table as it is written. -/
structure Section where
  first : String
  others : List String := []
  assignments : List Assignment

namespace Section

/-- The line of a header and those of the assignments behind it. -/
def text (table : Section) : List Char :=
  '[' :: (dottedKey table.first table.others ++ ']' :: '\n' ::
    table.assignments.flatMap Assignment.text)

/-- What the lines of a table say. -/
def lines (table : Section) : List Line :=
  .header (table.first :: table.others).dropLast
      ((table.first :: table.others).getLast?.getD table.first) ::
    table.assignments.map Assignment.line

/-- Whether a table is written in a form that is read back. -/
structure Faithful (table : Section) : Prop where
  plain : isKey (table.first :: table.others) = true
  assignments : ∀ assignment ∈ table.assignments, assignment.Faithful

end Section

/-- The line of a header is read back. -/
theorem line_header {table : Section} (faithful : table.Faithful) (rest : List Char) :
    Scan.line ('[' :: (dottedKey table.first table.others ++ ']' :: '\n' :: rest)) =
      some (.header (table.first :: table.others).dropLast
        ((table.first :: table.others).getLast?.getD table.first), rest) := by
  have close : isBlank ']' = false := by decide
  -- The name ends at the bracket, where nothing but the end of the line is left.
  have name := key_dotted faithful.plain (']' :: '\n' :: rest)
    (by simp [EndsName]; decide) (by simp [close])
  have bare : isBare table.first = true := by
    have plain := faithful.plain
    simp only [isKey, List.all_cons, Bool.and_eq_true] at plain
    exact plain.1.1
  obtain ⟨first, others, letters, all⟩ := exists_cons_of_isBare bare
  obtain ⟨_, _, _, apart⟩ := isBareKey_apart (all first (.head _))
  have same : dottedKey table.first table.others ++ ']' :: '\n' :: rest =
      first :: (others ++ (table.others.flatMap fun part => '.' :: part.toList) ++
        ']' :: '\n' :: rest) := by
    simp [dottedKey, letters]
  -- A second bracket would open an array of tables, and no name begins with one.
  rw [same, line_eq_headerLine apart, ← same]
  simp [headerLine, name, close, lineRest_feed]

/-- Texts that are read line by line, with what their lines say; some lines may be empty. -/
inductive Writes : List Char → List Line → Prop where
  | done : Writes [] []
  | feed {rest : List Char} {lines : List Line} (later : Writes rest lines) :
      Writes ('\n' :: rest) lines
  | line {c : Char} {text rest : List Char} {first : Line} {lines : List Line} (token : IsToken c)
      (shorter : rest.length ≤ text.length) (read : Scan.line (c :: text) = some (first, rest))
      (later : Writes rest lines) : Writes (c :: text) (first :: lines)

/-- The lines of a text are read with enough steps. -/
theorem Writes.linesWithin_apply {text : List Char} {lines : List Line} (writes : Writes text lines)
    {budget : Nat} (enough : text.length < budget) :
    linesWithin budget text = some (lines, []) := by
  -- Every line takes at least one character, and the end of the text takes the last step.
  induction writes generalizing budget with
  | done =>
    obtain ⟨budget, rfl⟩ := Nat.exists_eq_succ_of_ne_zero (Nat.ne_zero_of_lt enough)
    simp [linesWithin]
  | feed _ ih =>
    obtain ⟨budget, rfl⟩ := Nat.exists_eq_succ_of_ne_zero (Nat.ne_zero_of_lt enough)
    have feed : isBlank '\n' = false := by decide
    simp only [List.length_cons] at enough
    -- An empty line takes one step.
    simp [linesWithin, feed, ih (show _ < budget by omega)]
  | line token shorter read _ ih =>
    obtain ⟨budget, rfl⟩ := Nat.exists_eq_succ_of_ne_zero (Nat.ne_zero_of_lt enough)
    simp only [List.length_cons] at enough
    have others := ih (show _ < budget by omega)
    -- A line with something on it takes one step too.
    simp [linesWithin, token.blank, token.hash, token.feed, token.carriage, read, others]

/-- The lines of a table come before those that follow. -/
theorem Section.Faithful.writes {table : Section} (faithful : table.Faithful) {rest : List Char}
    {lines : List Line} (later : Writes rest lines) :
    Writes (table.text ++ rest) (table.lines ++ lines) := by
  have all (assignments : List Assignment) (included : assignments ⊆ table.assignments) :
      Writes (assignments.flatMap Assignment.text ++ rest)
        (assignments.map Assignment.line ++ lines) := by
    -- The assignments are read from the first to the last, in front of what comes later.
    induction assignments with
    | nil => exact later
    | cons assignment assignments ih =>
      have line := line_assignment (faithful.assignments assignment (included (.head _)))
        (assignments.flatMap Assignment.text ++ rest)
      obtain ⟨c, others, same, token, shorter, read⟩ := line
      rw [List.flatMap_cons, List.append_assoc, same]
      exact .line token shorter read (ih fun _ among => included (.tail _ among))
  -- The line of the header comes before the assignments.
  have header := line_header faithful (table.assignments.flatMap Assignment.text ++ rest)
  have whole := Writes.line ⟨by decide, by decide, by decide, by decide⟩ (by simp; omega) header
    (all table.assignments (List.Subset.refl _))
  simpa [Section.text, Section.lines] using whole

/-- A document of tables with an empty line between them. -/
def documentText (tables : List Section) : List Char :=
  ['\n'].intercalate (tables.map Section.text)

/-- The lines of a document are those of its tables. -/
theorem writes_documentText {tables : List Section} (faithful : ∀ table ∈ tables, table.Faithful) :
    Writes (documentText tables) (tables.flatMap Section.lines) := by
  induction tables with
  | nil => exact .done
  | cons table others ih =>
    have first := faithful table (.head _)
    have later := ih fun other among => faithful other (.tail _ among)
    -- Between two tables is an empty line, and behind the last one there is none.
    cases others with
    | nil => simpa [documentText] using first.writes .done
    | cons next others =>
      have whole := first.writes (.feed later)
      simpa [documentText, List.intercalate] using whole

/-- A text without byte order mark is read from its first character on. -/
theorem readLines_ofList {text : List Char} (plain : text.head? ≠ some '\uFEFF') :
    readLines (String.ofList text) = (linesWithin (text.length + 1) text).map (·.1) := by
  simp only [readLines, String.toList_ofList]
  split
  · exact absurd rfl plain
  · rfl

/-- The lines of a document are read back. -/
theorem readLines_documentText {tables : List Section}
    (faithful : ∀ table ∈ tables, table.Faithful) :
    readLines (String.ofList (documentText tables)) = some (tables.flatMap Section.lines) := by
  have read := (writes_documentText faithful).linesWithin_apply
    (Nat.lt_succ_self (documentText tables).length)
  have plain : (documentText tables).head? ≠ some '\uFEFF' := by
    -- Every table begins with a bracket, and so no document with a byte order mark.
    match tables with
    | [] => simp [documentText]
    | [only] => simp [documentText, Section.text]
    | first :: second :: others => simp [documentText, Section.text, List.intercalate]
  rw [readLines_ofList plain, read]
  rfl

end ContentClasses.Toml
