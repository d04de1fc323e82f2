import ContentClasses.Proofs.Java.Source

/-! Java reads a written string literal back as the text that it was written for, unless a carriage
return stands in that text: it is written as it is, and Java ends a line there. -/

namespace ContentClasses.Java

/-- The character for the letter of an escape sequence. Octal escapes are left out, and Unicode
escapes are none of these sequences: a literal with either is not read here. -/
def escapeSequence? : Char → Option Char
  | 'b' => some '\x08'
  | 's' => some ' '
  | 't' => some '\t'
  | 'n' => some '\n'
  | 'f' => some '\x0c'
  | 'r' => some '\r'
  | '\x22' => some '\x22'
  | '\x27' => some '\x27'
  | '\\' => some '\\'
  | _ => none

/-- Cuts the text after an opening quote at the closing one, the first that is not escaped. -/
def cutAtQuote : List Char → Option (List Char × List Char)
  | [] => none
  | '\x22' :: rest => some ([], rest)
  | '\\' :: letter :: rest => (cutAtQuote rest).map fun (body, after) =>
    ('\\' :: letter :: body, after)
  | c :: rest => (cutAtQuote rest).map fun (body, after) => (c :: body, after)

/-- The text that is left when all escape sequences are undone. -/
def unescape? : List Char → Option (List Char)
  | [] => some []
  | '\\' :: letter :: rest => do return (← escapeSequence? letter) :: (← unescape? rest)
  | c :: rest => if c = '\\' then none else (unescape? rest).map (c :: ·)

/-- Whether a character ends a line of a Java source. -/
def endsLine (c : Char) : Bool := c = '\n' || c = '\r'

/-- The value of the string literal that a Java source goes on with, and the source after it. No
literal goes on behind the end of a line. -/
def readLiteral? : List Char → Option (String × List Char)
  | '\x22' :: rest => do
    let (body, after) ← cutAtQuote rest
    if body.any endsLine then none else return (String.ofList (← unescape? body), after)
  | _ => none

/-- What stands between the quotes of the literal for a text. -/
def literalBody (value : String) : List Char := value.toList.flatMap literalChar

/-- What Java finds where the literal for a text stands in front of the rest of a source. -/
structure LiteralRead (value : String) (rest : List Char) : Prop where
  /-- The closing quote is the last character of the literal. -/
  cut : cutAtQuote (literalBody value ++ '\x22' :: rest) = some (literalBody value, rest)
  /-- The escape sequences stand for the characters of the text. -/
  unescaped : unescape? (literalBody value) = some value.toList
  /-- No line feed stands between the quotes. -/
  lineFeed : '\n' ∉ literalBody value
  /-- A carriage return stands between them if there is one in the text. -/
  carriageReturn : '\r' ∈ literalBody value ↔ '\r' ∈ value.toList
  /-- Without it the literal is read back, and with it there is no literal. -/
  read : readLiteral? ((stringLiteral value).toList ++ rest) =
    if '\r' ∈ value.toList then none else some (value, rest)

section

variable {value : String} {c : Char}

/-- A character is written as an escape sequence that stands for it, or as itself if it may stand
between quotes or is a carriage return. -/
theorem literalChar_cases (c : Char) :
    (∃ letter, escapeSequence? letter = some c ∧ literalChar c = ['\\', letter] ∧
      endsLine letter = false ∧ c ≠ '\r') ∨
    c ≠ '\x22' ∧ c ≠ '\\' ∧ c ≠ '\n' ∧ literalChar c = [c] := by
  -- Three characters are escaped, each by its own letter.
  by_cases quote : c = '\x22'
  · exact .inl ⟨'\x22', by simp [quote, literalChar, escapeSequence?, endsLine]⟩
  · by_cases backslash : c = '\\'
    · exact .inl ⟨'\\', by simp [backslash, literalChar, escapeSequence?, endsLine]⟩
    · by_cases lineFeed : c = '\n'
      · exact .inl ⟨'n', by simp [lineFeed, literalChar, escapeSequence?, endsLine]⟩
      · exact .inr ⟨quote, backslash, lineFeed, by simp [literalChar]⟩

/-- The body of a literal ends at the quote behind it. -/
theorem cutAtQuote_flatMap (text rest : List Char) :
    cutAtQuote (text.flatMap literalChar ++ '\x22' :: rest) =
      some (text.flatMap literalChar, rest) := by
  -- A quote or a backslash in the text is the second character of an escape sequence.
  induction text with
  | nil => rfl
  | cons c text ih =>
    rw [List.flatMap_cons, List.append_assoc]
    rcases literalChar_cases c with ⟨letter, -, written, -, -⟩ | ⟨quote, backslash, -, written⟩
    · simp [written, cutAtQuote, ih]
    · simp [written, cutAtQuote, ih, backslash]

/-- Undoing its escape sequences gives the text that a body was written for. -/
theorem unescape?_flatMap (text : List Char) :
    unescape? (text.flatMap literalChar) = some text := by
  -- Every character is undone by itself.
  induction text with
  | nil => rfl
  | cons c text ih =>
    rw [List.flatMap_cons]
    -- A character that is not escaped is no backslash, so it does not begin a sequence.
    rcases literalChar_cases c with ⟨letter, known, written, -, -⟩ | ⟨-, backslash, -, written⟩
    · simp [written, unescape?, known, ih]
    · simp [written, unescape?, ih, backslash]

/-- The only character in a body that ends a line is a carriage return of the text. -/
theorem endsLine_literalBody : c ∈ literalBody value ∧ endsLine c = true ↔
    c = '\r' ∧ '\r' ∈ value.toList := by
  simp only [literalBody, List.mem_flatMap]
  constructor
  · rintro ⟨⟨original, among, inside⟩, ends⟩
    rcases literalChar_cases original with ⟨letter, -, written, plain, -⟩ | ⟨-, -, other, written⟩
    · -- Neither character of an escape sequence ends a line.
      rw [written] at inside
      simp only [List.mem_cons, List.not_mem_nil, or_false] at inside
      rcases inside with rfl | rfl
      · cases ends
      · rw [plain] at ends
        cases ends
    · -- A character that stands for itself ends a line only as a carriage return.
      rw [written, List.mem_singleton] at inside
      subst inside
      simp only [endsLine, Bool.or_eq_true, decide_eq_true_eq] at ends
      obtain rfl := ends.resolve_left other
      exact ⟨rfl, among⟩
  · -- A carriage return is not escaped, so it comes into the body.
    rintro ⟨rfl, among⟩
    exact ⟨⟨'\r', among, by decide⟩, rfl⟩

/-- The literal for a text is cut and undone as it was written, and Java reads it unless a carriage
return stands in the text. -/
theorem literalRead (value : String) (rest : List Char) : LiteralRead value rest := by
  -- The body is cut at its own end, because every quote in it is escaped.
  have cut : cutAtQuote (literalBody value ++ '\x22' :: rest) = some (literalBody value, rest) :=
    cutAtQuote_flatMap value.toList rest
  have unescaped : unescape? (literalBody value) = some value.toList :=
    unescape?_flatMap value.toList
  -- A line feed would end a line without being a carriage return.
  have lineFeed : '\n' ∉ literalBody value := fun inside => by
    simpa using endsLine_literalBody.mp ⟨inside, rfl⟩
  have carriageReturn : '\r' ∈ literalBody value ↔ '\r' ∈ value.toList := by
    simpa [endsLine] using @endsLine_literalBody value '\r'
  -- Java refuses a body in which a line ends.
  have ends : (literalBody value).any endsLine = true ↔ '\r' ∈ value.toList := by
    simp [List.any_eq_true, endsLine_literalBody]
  have opened : (stringLiteral value).toList ++ rest =
      '\x22' :: (literalBody value ++ '\x22' :: rest) := by
    simp [stringLiteral, literalBody]
  refine ⟨cut, unescaped, lineFeed, carriageReturn, ?_⟩
  simp only [opened, readLiteral?, cut, Option.bind_eq_bind, Option.bind_some]
  -- Whether the literal is read depends on the carriage return alone.
  by_cases returns : '\r' ∈ value.toList
  · rw [if_pos (ends.mpr returns), if_pos returns]
  · rw [if_neg (mt ends.mp returns), if_neg returns, unescaped]
    simp

end

/-- What Java finds where an annotation stands in a unit, on the line before a declaration: its
value is the codename that it carries, unless a carriage return stands in that. -/
def AnnotationRead (unit mark codename declaration : String) : Prop :=
  ∃ before after : String,
    unit = before ++ "@" ++ mark ++ "(" ++ stringLiteral codename ++ after ∧
    (")\n" ++ declaration).toList <+: after.toList ∧
    readLiteral? ((stringLiteral codename).toList ++ after.toList) =
      if '\r' ∈ codename.toList then none else some (codename, after.toList)

/-- An annotation is read where it is written. -/
theorem annotationRead (before mark codename declaration after : String) :
    AnnotationRead
      (before ++ "@" ++ mark ++ "(" ++ stringLiteral codename ++ ")\n" ++ declaration ++ after)
      mark codename declaration := by
  -- The literal stands between the mark and the declaration, and it is read there.
  refine ⟨before, ")\n" ++ declaration ++ after, by simp only [String.append_assoc], ?_,
    (literalRead codename _).read⟩
  exact ⟨after.toList, by simp⟩

/-- Each of several blocks stands in the text that they are put together to. -/
theorem exists_intercalate (separator : String) {block : String} {blocks : List String}
    (member : block ∈ blocks) :
    ∃ before after, separator.intercalate blocks = before ++ block ++ after := by
  -- The block is the first one, or it stands among the others.
  induction blocks with
  | nil => cases member
  | cons first rest ih =>
    cases rest with
    | nil =>
      obtain rfl := List.mem_singleton.mp member
      exact ⟨"", "", by simp⟩
    | cons second rest =>
      rcases List.mem_cons.mp member with rfl | later
      · exact ⟨"", separator ++ separator.intercalate (second :: rest), by
          simp [String.append_assoc]⟩
      · obtain ⟨before, after, same⟩ := ih later
        exact ⟨first ++ separator ++ before, after, by simp [same, String.append_assoc]⟩

section

variable {spec : ClassSpec} {package : String} {profile : Profile} {siblings : List String}

/-- Below its comment a unit has the annotation on the class, the line that opens it, and blocks
with those for its fields among them. -/
theorem renderClass_blocks (spec : ClassSpec) (package : String) (profile : Profile)
    (siblings : List String) :
    let text := nameText spec package profile siblings
    ∃ blocks : List String,
      renderClass spec package profile siblings =
        packageLine package ++ importBlock (importLines spec package profile siblings) ++
        documentation spec.documentation ++ "@" ++ text profile.annotations.contentType ++ "(" ++
        stringLiteral spec.provenance ++ ")\n" ++ "public class " ++ spec.name ++ " \x7b\n" ++
        "\n".intercalate blocks ++ "\x7d\n" ∧
      ∀ field ∈ spec.fields, fieldBlock profile (text profile.annotations.element)
        (profile.writtenType text field.type) field ∈ blocks :=
  ⟨_, renderClass_eq spec package profile siblings, fun _ member =>
    List.mem_append_left _ (List.mem_map.mpr ⟨_, List.mem_map_of_mem member, rfl⟩)⟩

/-- The annotation on the class is read. -/
theorem annotationRead_class :
    AnnotationRead (renderClass spec package profile siblings)
      (nameText spec package profile siblings profile.annotations.contentType) spec.provenance
      ("public class " ++ spec.name) := by
  -- The annotation stands right below the comment of the unit.
  obtain ⟨blocks, laid, -⟩ := renderClass_blocks spec package profile siblings
  have read := annotationRead
    (packageLine package ++ importBlock (importLines spec package profile siblings) ++
      documentation spec.documentation)
    (nameText spec package profile siblings profile.annotations.contentType) spec.provenance
    ("public class " ++ spec.name) (" \x7b\n" ++ "\n".intercalate blocks ++ "\x7d\n")
  rw [laid]
  simpa only [String.append_assoc] using read

/-- The annotation on each field is read. -/
theorem annotationRead_field {field : FieldSpec} (member : field ∈ spec.fields) :
    AnnotationRead (renderClass spec package profile siblings)
      (nameText spec package profile siblings profile.annotations.element) field.source
      (profile.indent ++ profile.writtenType (nameText spec package profile siblings) field.type ++
        " " ++ profile.escapeKeyword field.name) := by
  -- It stands on the first line of the block for the field, after the indentation.
  obtain ⟨blocks, laid, inside⟩ := renderClass_blocks spec package profile siblings
  obtain ⟨before, after, same⟩ := exists_intercalate "\n" (inside field member)
  have read := annotationRead
    (packageLine package ++ importBlock (importLines spec package profile siblings) ++
      documentation spec.documentation ++ "@" ++
      nameText spec package profile siblings profile.annotations.contentType ++ "(" ++
      stringLiteral spec.provenance ++ ")\n" ++ "public class " ++ spec.name ++ " \x7b\n" ++
      before ++ profile.indent)
    (nameText spec package profile siblings profile.annotations.element) field.source
    (profile.indent ++ profile.writtenType (nameText spec package profile siblings) field.type ++
      " " ++ profile.escapeKeyword field.name) (";\n" ++ after ++ "\x7d\n")
  rw [laid, same, fieldBlock]
  simpa only [String.append_assoc] using read

end

/-- Java reads the literal for every text without carriage return back as that text, whatever comes
after it, and so it reads the codenames that the annotations of a unit carry. -/
theorem literals_read_back (value : String) (rest : List Char) (spec : ClassSpec)
    (package : String) (profile : Profile) (siblings : List String) :
    LiteralRead value rest ∧
    let unit := renderClass spec package profile siblings
    let text := nameText spec package profile siblings
    AnnotationRead unit (text profile.annotations.contentType) spec.provenance
      ("public class " ++ spec.name) ∧
    ∀ field ∈ spec.fields,
      AnnotationRead unit (text profile.annotations.element) field.source
        (profile.indent ++ profile.writtenType text field.type ++ " " ++
          profile.escapeKeyword field.name) :=
  ⟨literalRead value rest, annotationRead_class, fun _ => annotationRead_field⟩

/-- A carriage return in a codename is written between the quotes of the annotation, which Java then
does not read. -/
theorem literals_keep_carriageReturn :
    let spec : ClassSpec := ⟨"Page", [], [], "a\rb", []⟩
    renderClass spec "" {} [] =
      "import com.kenticocloud.delivery.ContentItemMapping;\n\n" ++
      "/**\n */\n" ++
      "@ContentItemMapping(\x22a\rb\x22)\n" ++
      "public class Page \x7b\n\x7d\n" ∧
    readLiteral? "\x22a\rb\x22)\n".toList = none ∧
    ¬ ∀ (value : String) (rest : List Char),
      readLiteral? ((stringLiteral value).toList ++ rest) = some (value, rest) := by
  refine ⟨by decide +kernel, by decide, fun all => ?_⟩
  -- Java stops at the end of the line between the quotes.
  have failed : readLiteral? ((stringLiteral "a\rb").toList ++ []) = none := by decide
  rw [all] at failed
  cases failed

end ContentClasses.Java
