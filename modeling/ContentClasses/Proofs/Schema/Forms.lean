import ContentClasses.Json.Printer
import ContentClasses.Proofs.Json.Printed
import ContentClasses.Proofs.Json.Records
import ContentClasses.Proofs.Steps
import ContentClasses.Schema.Reader

/-! Which content types a JSON text says, and that these are read from it. -/

namespace ContentClasses

open Json

/-- Whether no two elements share a codename. -/
def DistinctCodenames (elements : List Element) : Prop := (elements.map (·.codename)).Nodup

instance (elements : List Element) : Decidable (DistinctCodenames elements) :=
  inferInstanceAs (Decidable (elements.map (·.codename)).Nodup)

/-- The fields of an element as forms give them. -/
def Element.formFields : List (FormField Element) := [
  .of "type" .required Form.text fun tag element => { element with tag },
  .of "name" .optional (Form.optional Form.text) fun name element => { element with name }]

/-- The element that a form under a codename stands for. -/
def Element.ofForm? (codename : String) : Form → Option Element :=
  Form.record Element.formFields { codename, tag := "" }

/-- The elements with one more, unless its codename is there already. -/
def addElement? (codename : String) (elements : List Element) (form : Form) :
    Option (List Element) := do
  let element ← Element.ofForm? codename form
  if elements.any (·.codename = codename) then none else some (elements ++ [element])

/-- The elements that a form stands for. -/
def elementsOfForm? : Form → Option (List Element) :=
  Form.objectOf addElement? [] some

/-- The codename and the display name that a form stands for. -/
def systemOfForm? : Form → Option (String × Option String) :=
  Form.record [
      .of "codename" .required Form.text fun codename system => (codename, system.2),
      .of "name" .optional (Form.optional Form.text) fun name system => (system.1, name)]
    ("", none)

/-- The fields of a content type as forms give them. -/
def ContentType.formFields : List (FormField ContentType) := [
  .of "system" .required systemOfForm? fun system type =>
    { type with codename := system.1, name := system.2 },
  .of "elements" .optional elementsOfForm? fun elements type => { type with elements }]

/-- The content type that a form stands for. -/
def ContentType.ofForm? : Form → Option ContentType :=
  Form.record ContentType.formFields { codename := "" }

/-- The paging block that a form stands for. -/
def Pagination.ofForm? : Form → Option Pagination :=
  Form.record [
      .of "skip" .optional Form.natural32 fun skip page => { page with skip },
      .of "limit" .optional Form.natural32 fun limit page => { page with limit },
      .of "count" .optional Form.natural32 fun count page => { page with count },
      .of "next_page" .optional Form.text fun nextPage page => { page with nextPage }]
    {}

/-- The fields of a listing as forms give them. -/
def Listing.formFields : List (FormField Listing) := [
  .of "types" .required (Form.listOf ContentType.ofForm?) fun types listing =>
    { listing with types },
  .of "pagination" .optional (Form.optional Pagination.ofForm?) fun pagination listing =>
    { listing with pagination }]

/-- The listing that a form stands for. -/
def Listing.ofForm? : Form → Option Listing := Form.record Listing.formFields {}

/-- The content types that a listing or a bare list of them stands for. -/
def typesOfForm? : Form → Option (List ContentType)
  | .list items => items.mapM ContentType.ofForm?
  | form => (Listing.ofForm? form).map (·.types)

/-- An element is read as its parts are. -/
theorem reads_element (codename : String) :
    Reads (readElement codename) (Element.ofForm? codename) :=
  .record (.cons ((reads_text _).field _ _ _)
    (.cons ((reads_text _).optional.field _ _ _) .nil)) _ _

/-- One member of the elements is read as one more element. -/
theorem readsMember_elementMember : ReadsMember elementMember addElement? := by
  intro key elements form word before after rest written blankBefore blankAfter ends
  simp only [elementMember, Scan.run?_bind, run?_colon blankBefore, Option.bind_some,
    reads_element key written blankAfter ends, addElement?]
  -- The codename is compared only once the element has been read.
  cases Element.ofForm? key form with
  | none => rfl
  | some element => by_cases taken : elements.any (·.codename = key) = true <;> simp [taken]

/-- Elements are read one after the other. -/
theorem reads_elements : Reads readElements elementsOfForm? :=
  readsMember_elementMember.object (fun _ _ => rfl) _ _

/-- The codename and the display name of a content type are read as its parts are. -/
theorem reads_system : Reads readSystem systemOfForm? :=
  .record (.cons ((reads_text _).field _ _ _)
    (.cons ((reads_text _).optional.field _ _ _) .nil)) _ _

/-- A content type is read as its parts are. -/
theorem reads_contentType : Reads readContentType ContentType.ofForm? :=
  .record (.cons (reads_system.field _ _ _) (.cons (reads_elements.field _ _ _) .nil)) _ _

/-- A paging block is read as its parts are. -/
theorem reads_pagination : Reads readPagination Pagination.ofForm? :=
  .record (.cons (reads_natural32.field _ _ _) (.cons (reads_natural32.field _ _ _)
    (.cons (reads_natural32.field _ _ _) (.cons ((reads_text _).field _ _ _) .nil)))) _ _

/-- A listing is read as its parts are. -/
theorem reads_listing : Reads readListing Listing.ofForm? :=
  .record (.cons ((reads_contentType.list _).field _ _ _)
    (.cons (reads_pagination.optional.field _ _ _) .nil)) _ _

/-- What is blank in a JSON text is white space. -/
theorem isSpace_of_isBlank {c : Char} (blank : Scan.isBlank c = true) : isSpace c = true := by
  simp only [Scan.isBlank, Bool.or_eq_true, decide_eq_true_eq] at blank
  rcases blank with ((rfl | rfl) | rfl) | rfl <;> decide

/-- No value begins with white space. -/
theorem Json.Form.StartsWith.not_isSpace {form : Form} {first : Char}
    (start : form.StartsWith first) : isSpace first = false := by
  -- Digits lie above all white space, and the other first characters are known.
  cases form with
  | number _ =>
    rcases start with rfl | digit
    · decide
    · have range : 48 ≤ first.toNat ∧ first.toNat ≤ 57 := Char.isDigit_iff_toNat.mp digit
      simp only [isSpace, Bool.or_eq_false_iff, Bool.and_eq_false_iff, decide_eq_false_iff_not]
      omega
  | boolean value => cases value <;> (rw [start]; decide)
  | _ => rw [start]; decide

/-- A text is accepted as content types exactly if it says some, and then as those. -/
theorem parseTypeListing_ok_iff {form : Form} {text : String} (valid : IsDocument form text)
    {types : List ContentType} :
    parseTypeListing text = .ok types ↔ typesOfForm? form = some types := by
  -- The first visible character is the first one of the value.
  have visible : ∃ first others, text.toList.dropWhile isSpace = first :: others ∧
      form.StartsWith first := by
    cases valid with
    | @mk _ _ after blankBefore written _ whole =>
      obtain ⟨first, others, rfl, start⟩ := written.exists_cons
      refine ⟨first, others ++ after, ?_, start⟩
      rw [whole, List.dropWhile_append_of_pos
        fun c among => isSpace_of_isBlank (blankBefore c among)]
      simp [start.not_isSpace]
  obtain ⟨first, others, seen, start⟩ := visible
  unfold parseTypeListing
  rw [seen, List.head?_cons]
  -- A bracket decides for a bare list, and anything else is read as a listing.
  cases form with
  | list items =>
    have opening : first = '[' := start
    rw [if_pos (congrArg some opening), (reads_contentType.list _).readDocument_ok_iff valid]
    rfl
  | _ =>
    have apart : some first ≠ some '[' := by simp [start.shows]
    have read (listing : Listing) :
        readDocument readListing text = .ok listing ↔ Listing.ofForm? _ = some listing :=
      reads_listing.readDocument_ok_iff valid
    rw [if_neg apart]
    simp only [typesOfForm?, Option.map_eq_some_iff, ← read]
    -- A fault in the listing leaves no content types.
    cases readDocument readListing text <;> simp

end ContentClasses
