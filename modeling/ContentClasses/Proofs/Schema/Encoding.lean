import ContentClasses.Proofs.Schema.Forms
import Mathlib.Data.List.Nodup

/-! Content types are read back from each of their JSON encodings. -/

namespace ContentClasses

open Json

/-- The member for a display name, if there is one. -/
def nameMembers (name : Option String) : List (String × Value) :=
  name.toList.map fun name => ("name", .string name)

/-- The JSON form of an element, which stands under its codename. -/
def Element.toJson (element : Element) : Value :=
  .object (("type", .string element.tag) :: nameMembers element.name)

/-- The JSON form of a content type. -/
def ContentType.toJson (type : ContentType) : Value :=
  .object [("system", .object (("codename", .string type.codename) :: nameMembers type.name)),
    ("elements", .object (type.elements.map fun element => (element.codename, element.toJson)))]

/-- The JSON form of a bare list of content types. -/
def typesJson (types : List ContentType) : Value := .list (types.map ContentType.toJson)

/-- The members of a listing object under which content types stand once, beside at most one paging
block and any members that nobody reads. -/
structure IsListing (types : Form) (members : List (Option String × Form)) : Prop where
  each : ∀ member ∈ members, ∃ key, member.1 = some key ∧ (key = "types" → member.2 = types) ∧
    (key = "pagination" → ∃ page, (member.2.optional Pagination.ofForm?) = some page)
  types : (members.map Prod.fst).count (some "types") = 1
  pagination : (members.map Prod.fst).count (some "pagination") ≤ 1

/-- The encoding of an element stands for it. -/
theorem Element.ofForm?_toJson (element : Element) :
    Element.ofForm? element.codename element.toJson.form = some element := by
  -- An element has a name or none, and the form is the same but for that member.
  obtain ⟨codename, tag, _ | name⟩ := element <;>
    simp [Element.toJson, nameMembers, Value.form, Element.ofForm?, Form.record, Form.objectOf,
      Form.memberOf, Form.recordMember, Form.recordEnd, Element.formFields, FormField.of, Form.text,
      Form.optional]

/-- Elements with codenames of their own are taken up one after the other. -/
theorem foldlM_addElement? (elements before : List Element)
    (distinct : DistinctCodenames (before ++ elements)) :
    (elements.map fun element => (some element.codename, element.toJson.form)).foldlM
      (Form.memberOf addElement?) before = some (before ++ elements) := by
  -- The elements taken up so far go before those that are still to come.
  induction elements generalizing before with
  | nil => simp
  | cons element elements ih =>
    have fresh : ¬∃ other ∈ before, other.codename = element.codename := by
      rintro ⟨other, among, same⟩
      rw [DistinctCodenames, List.map_append, List.nodup_append] at distinct
      exact distinct.2.2 _ (List.mem_map_of_mem among) _ (.head _) same
    have others := ih (before ++ [element]) (by simpa [DistinctCodenames] using distinct)
    simp [Form.memberOf, addElement?, Element.ofForm?_toJson, fresh, others]

/-- The encoding of a content type stands for it. -/
theorem ContentType.ofForm?_toJson {type : ContentType}
    (distinct : DistinctCodenames type.elements) :
    ContentType.ofForm? type.toJson.form = some type := by
  -- The elements are added one after the other, and none of their codenames is there before.
  have elements := foldlM_addElement? type.elements [] distinct
  obtain ⟨codename, _ | name, elements⟩ := type <;>
    simp_all [ContentType.toJson, nameMembers, Value.form, ContentType.ofForm?, Form.record,
      Form.objectOf, Form.memberOf, Form.recordMember, Form.recordEnd, ContentType.formFields,
      FormField.of, Form.text, Form.optional, systemOfForm?, elementsOfForm?, Function.comp_def]

/-- The encodings of content types stand for them. -/
theorem listOf_typesJson {types : List ContentType}
    (distinct : ∀ type ∈ types, DistinctCodenames type.elements) :
    Form.listOf ContentType.ofForm? (typesJson types).form = some types := by
  have stands := Form.listOf_map (fun type : ContentType => type.toJson.form) types
    fun type among => ContentType.ofForm?_toJson (distinct type among)
  simpa [typesJson, Value.form, Function.comp_def] using stands

/-- There are no numbers in the encoding of content types. -/
theorem plain_typesJson (types : List ContentType) : (typesJson types).Plain := by
  -- The parts are plain from the inside out.
  have named (name : Option String) : ∀ member ∈ nameMembers name, member.2.Plain := by
    cases name <;> simp [nameMembers, Value.Plain.string]
  have element (element : Element) : element.toJson.Plain :=
    .object (by simpa [Value.Plain.string] using named element.name)
  have type (type : ContentType) : type.toJson.Plain := by
    have system : (Value.object (("codename", .string type.codename) ::
        nameMembers type.name)).Plain :=
      .object (by simpa [Value.Plain.string] using named type.name)
    have elements : (Value.object (type.elements.map fun element =>
        (element.codename, element.toJson))).Plain :=
      .object (by simp [element])
    exact .object (by simp [system, elements])
  exact .list (by simp [type])

/-- The members of a listing object make a change each, as far as they are known, and only those
under `types` change the content types. -/
theorem exists_changes {types : List ContentType} {form : Form}
    (stands : Form.listOf ContentType.ofForm? form = some types)
    {members : List (Option String × Form)}
    (each : ∀ member ∈ members, ∃ key, member.1 = some key ∧ (key = "types" → member.2 = form) ∧
      (key = "pagination" → ∃ page, (member.2.optional Pagination.ofForm?) = some page)) :
    ∃ made, Form.changes Listing.formFields members = some made ∧
      (∀ key, (made.map Prod.fst).count key = if key = "types" ∨ key = "pagination" then
        (members.map Prod.fst).count (some key) else 0) ∧
      ∀ change ∈ made, ∀ listing, (change.2 listing).types =
        if change.1 = "types" then types else listing.types := by
  -- A member is one of the two known fields, or makes no change.
  induction members with
  | nil => exact ⟨[], rfl, by simp, by simp⟩
  | cons member members ih =>
    obtain ⟨made, others, counted, keeps⟩ := ih fun other among => each other (.tail _ among)
    obtain ⟨key, named, content, paging⟩ := each member (.head _)
    obtain ⟨_, value⟩ := member
    cases named
    -- The content types are the value of the one known key.
    by_cases isTypes : key = "types"
    · cases isTypes
      cases content rfl
      refine ⟨("types", fun listing => { listing with types }) :: made, ?_, ?_, ?_⟩
      · rw [Form.changes_cons_known (by rfl) (by simp [FormField.of, stands]; rfl), others]
        rfl
      · intro key
        simp only [List.map_cons, List.count_cons, counted]
        grind
      · simpa using keeps
    by_cases isPage : key = "pagination"
    · cases isPage
      obtain ⟨page, read⟩ := paging rfl
      refine ⟨("pagination", fun listing => { listing with pagination := page }) :: made,
        ?_, ?_, ?_⟩
      · rw [Form.changes_cons_known (by rfl) (by simp [FormField.of, read]; rfl), others]
        rfl
      · intro key
        simp only [List.map_cons, List.count_cons, counted]
        grind
      · simpa using keeps
    · -- Another member is read by nobody.
      refine ⟨made, ?_, ?_, keeps⟩
      · rwa [Form.changes_cons_unknown (by
          simp [Listing.formFields, FormField.of, Ne.symm isTypes, Ne.symm isPage])]
      · intro key
        simp only [List.map_cons, List.count_cons, counted]
        grind

/-- The content types of a listing are those of the last change to them. -/
theorem types_foldl_changes {types : List ContentType}
    {made : List (String × (Listing → Listing))}
    (keeps : ∀ change ∈ made, ∀ listing, (change.2 listing).types =
      if change.1 = "types" then types else listing.types) (start : Listing) :
    (made.foldl (fun listing change => change.2 listing) start).types =
      if "types" ∈ made.map Prod.fst then types else start.types := by
  -- The last change to the content types is the one that counts, and all of them say the same.
  induction made generalizing start with
  | nil => simp
  | cons change made ih =>
    rw [List.foldl_cons, ih (fun other among => keeps other (.tail _ among)),
      keeps change (.head _) start]
    simp only [List.map_cons, List.mem_cons]
    grind

/-- A listing object stands for the content types under `types`. -/
theorem IsListing.typesOfForm?_object {types : List ContentType} {form : Form}
    (stands : Form.listOf ContentType.ofForm? form = some types)
    {members : List (Option String × Form)} (listing : IsListing form members) :
    typesOfForm? (.object members) = some types := by
  -- Each known member has made one change.
  obtain ⟨made, changed, counted, keeps⟩ := exists_changes stands listing.each
  -- The members that nobody reads may repeat their keys, and the known ones do not.
  have once : (made.map Prod.fst).Nodup := by
    refine List.nodup_iff_count_le_one.mpr fun key => ?_
    rw [counted]
    have types := listing.types
    have pagination := listing.pagination
    grind
  have given : "types" ∈ made.map Prod.fst := by
    rw [← List.count_pos_iff, counted]
    simp [listing.types]
  -- The content types are the only field that must be there.
  have complete : ∀ field ∈ Listing.formFields, field.presence = .required →
      field.key ∈ made.map Prod.fst := by
    simpa [Listing.formFields, FormField.of] using given
  simp only [typesOfForm?, Listing.ofForm?, Form.record_object, changed, Option.bind_some]
  rw [if_pos ⟨once, complete⟩, Option.map_some, types_foldl_changes keeps, if_pos given]

/-- Content types with elements of distinct codenames are read back from every text of their
encoding, bare or under `types` in a listing object, whatever blanks and escapes it is written
with. -/
theorem parseTypeListing_encoded (types : List ContentType)
    (distinct : ∀ type ∈ types, DistinctCodenames type.elements) :
    (∀ text, IsDocument (typesJson types).form text → parseTypeListing text = .ok types) ∧
      (∀ members text, IsListing (typesJson types).form members →
        IsDocument (.object members) text → parseTypeListing text = .ok types) ∧
      parseTypeListing (typesJson types).pretty = .ok types ∧
      parseTypeListing (Value.object [("types", typesJson types)]).pretty = .ok types := by
  -- The form of the encoding stands for the content types, so every text of it does.
  have stands := listOf_typesJson distinct
  have bare (text : String) (document : IsDocument (typesJson types).form text) :
      parseTypeListing text = .ok types :=
    (parseTypeListing_ok_iff document).mpr stands
  have listed (members : List (Option String × Form)) (text : String)
      (listing : IsListing (typesJson types).form members)
      (document : IsDocument (.object members) text) : parseTypeListing text = .ok types :=
    (parseTypeListing_ok_iff document).mpr (listing.typesOfForm?_object stands)
  have plain := plain_typesJson types
  -- The pretty texts are two of these texts.
  have wrapped : (Value.object [("types", typesJson types)]).Plain := .object (by simp [plain])
  have only : IsListing (typesJson types).form [(some "types", (typesJson types).form)] := by
    constructor <;> simp
  exact ⟨bare, listed, bare _ plain.isDocument, listed _ _ only wrapped.isDocument⟩

/-- Texts with quotes, line breaks and characters beyond the basic plane come back as they were. -/
theorem parseTypeListing_encoded_score :
    let types : List ContentType := [
      ⟨"a\"b\\", some "Größe\n", [⟨"title", "text", none⟩, ⟨"𝄞", "asset", some "\x01"⟩]⟩,
      ⟨"", none, []⟩]
    (∀ type ∈ types, DistinctCodenames type.elements) ∧
      parseTypeListing (typesJson types).pretty = .ok types ∧
      parseTypeListing (Value.object [("types", typesJson types)]).pretty = .ok types := by
  intro types
  -- The codenames in each type differ, and the general law covers the rest.
  have distinct : ∀ type ∈ types, DistinctCodenames type.elements := by decide
  obtain ⟨-, -, bare, listed⟩ := parseTypeListing_encoded types distinct
  exact ⟨distinct, bare, listed⟩

end ContentClasses
