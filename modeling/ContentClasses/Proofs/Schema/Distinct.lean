import ContentClasses.Proofs.Json.Printed
import ContentClasses.Proofs.Json.Yields
import ContentClasses.Proofs.Schema.Forms
import Mathlib.Data.List.Nodup

/-! The elements of every accepted content type have codenames of their own, and a text in which the
elements of a content type repeat a key is not accepted. -/

namespace ContentClasses

open Json

/-- An element with a new codename keeps codenames distinct. -/
theorem DistinctCodenames.append_singleton {elements : List Element} {element : Element}
    (distinct : DistinctCodenames elements)
    (fresh : ¬elements.any (·.codename = element.codename) = true) :
    DistinctCodenames (elements ++ [element]) := by
  -- The last codename differs from each one before it.
  simp only [List.any_eq_true, decide_eq_true_eq, not_exists, not_and] at fresh
  rw [DistinctCodenames, List.map_append, List.nodup_append]
  refine ⟨distinct, by simp, fun taken among other last => ?_⟩
  obtain ⟨earlier, inside, rfl⟩ := List.mem_map.mp among
  cases List.mem_singleton.mp last
  exact fresh earlier inside

/-- An element is read with the codename that it stands under. -/
theorem yields_element (codename : String) :
    Yields (readElement codename) fun element => element.codename = codename := by
  -- No field changes the codename that the element starts with.
  refine yields_record (fun field among => ?_) _ rfl
  simp only [List.mem_cons, List.not_mem_nil, or_false] at among
  rcases among with rfl | rfl <;>
    · refine RecordField.yields_of_any ?_ _ _
      exact fun _ _ same => same

/-- No element joins others with its codename. -/
theorem yields_elements : Yields readElements DistinctCodenames := by
  have none : DistinctCodenames [] := List.nodup_nil
  -- That codenames are distinct so far is what each member keeps.
  refine yields_object DistinctCodenames (fun codename elements distinct => ?_) none
    (fun _ distinct => .pure distinct) _
  refine .after fun _ => .bind (yields_element codename) fun element named => ?_
  split
  · exact .of_fails fun _ => rfl
  · rename_i fresh
    exact .pure (distinct.append_singleton (named ▸ fresh))

/-- Content types are read with distinct codenames of their elements. -/
theorem yields_contentType :
    Yields readContentType fun type => DistinctCodenames type.elements := by
  -- At the start there are no elements.
  have none : DistinctCodenames [] := List.nodup_nil
  refine yields_record (fun field among => ?_) _ none
  simp only [List.mem_cons, List.not_mem_nil, or_false] at among
  rcases among with rfl | rfl
  · -- The system says nothing of elements, which are read with distinct codenames.
    refine RecordField.yields_of_any ?_ _ _
    exact fun _ _ distinct => distinct
  · refine RecordField.yields_of yields_elements ?_ _ _
    exact fun _ distinct _ _ => distinct

/-- Listings are read with distinct codenames of the elements of each type. -/
theorem yields_listing :
    Yields readListing fun listing : Listing => ∀ type ∈ listing.types,
      DistinctCodenames type.elements := by
  -- The types are read with distinct codenames, and the pages change nothing.
  refine yields_record (fun field among => ?_) _ (by simp)
  simp only [List.mem_cons, List.not_mem_nil, or_false] at among
  rcases among with rfl | rfl
  · refine RecordField.yields_of (yields_contentType.list _) ?_ _ _
    exact fun _ distinct _ _ => distinct
  · refine RecordField.yields_of_any ?_ _ _
    exact fun _ _ distinct => distinct

/-- Every accepted content type has distinct codenames of its elements. -/
theorem distinct_of_parseTypeListing {text : String} {types : List ContentType}
    (accepted : parseTypeListing text = .ok types) {type : ContentType} (among : type ∈ types) :
    DistinctCodenames type.elements := by
  unfold parseTypeListing at accepted
  -- Both forms of a listing read content types alike.
  split at accepted
  · exact (yields_contentType.list _).readDocument accepted type among
  · cases read : readDocument readListing text with
    | error error =>
      rw [read] at accepted
      nomatch accepted
    | ok listing =>
      rw [read] at accepted
      cases accepted
      exact yields_listing.readDocument read type among

/-- An element that a form under a codename stands for has that codename. -/
theorem Element.codename_of_ofForm? {codename : String} {form : Form} {element : Element}
    (stands : Element.ofForm? codename form = some element) : element.codename = codename := by
  -- The record starts with the codename, and no field changes it.
  refine @Form.kept_of_record _ Element.formFields (fun element => element.codename = codename)
    (fun field among form change read value same => ?_) _ _ _ rfl stands
  simp only [Element.formFields, List.mem_cons, List.not_mem_nil, or_false] at among
  rcases among with rfl | rfl <;>
    · obtain ⟨_, _, rfl⟩ := Option.map_eq_some_iff.mp read
      exact same

/-- Members that make elements have their codenames as keys, and none of them twice. -/
theorem keys_of_foldlM_addElement? {members : List (Option String × Form)}
    {before after : List Element}
    (stands : members.foldlM (Form.memberOf addElement?) before = some after)
    (distinct : DistinctCodenames before) :
    (after.map (·.codename)).map some =
        (before.map (·.codename)).map some ++ members.map Prod.fst ∧
      DistinctCodenames after := by
  -- Each member that is taken up adds its own key as a new codename.
  induction members generalizing before with
  | nil =>
    cases stands
    exact ⟨by simp, distinct⟩
  | cons member members ih =>
    rw [List.foldlM_cons] at stands
    obtain ⟨next, added, rest⟩ := Option.bind_eq_some_iff.mp stands
    obtain ⟨key, named, added⟩ := Option.bind_eq_some_iff.mp added
    obtain ⟨element, read, added⟩ := Option.bind_eq_some_iff.mp added
    split at added
    · -- A codename that is there already is refused.
      nomatch added
    · rename_i fresh
      cases added
      have codename := Element.codename_of_ofForm? read
      obtain ⟨keys, apart⟩ := ih rest (distinct.append_singleton (codename ▸ fresh))
      exact ⟨by simp [keys, codename, named], apart⟩

/-- The forms of the content types in a listing or in a bare list of them. -/
inductive Json.Form.HoldsType : Form → Form → Prop where
  | bare {items : List Form} {type : Form} (among : type ∈ items) : HoldsType (.list items) type
  | listed {members : List (Option String × Form)} {items : List Form} {type : Form}
      (member : (some "types", .list items) ∈ members) (among : type ∈ items) :
      HoldsType (.object members) type

/-- The members of the elements object of a content type, which may be written as a list. -/
inductive Json.Form.HoldsElements : Form → List (Option String × Form) → Prop where
  | member {members elements : List (Option String × Form)}
      (member : (some "elements", .object elements) ∈ members) :
      HoldsElements (.object members) elements
  | item {system : Form} {elements : List (Option String × Form)} {others : List Form} :
      HoldsElements (.list (system :: .object elements :: others)) elements

/-- The content types in a form that stands for some stand for one each. -/
theorem Json.Form.HoldsType.exists_ofForm? {form type : Form} {types : List ContentType}
    (holds : form.HoldsType type) (stands : typesOfForm? form = some types) :
    ∃ read, ContentType.ofForm? type = some read := by
  -- The content types stand in a list, bare or as a member.
  cases holds with
  | bare among => exact Form.exists_of_listOf stands among
  | listed member among =>
    obtain ⟨listing, read, _⟩ := Option.map_eq_some_iff.mp stands
    obtain ⟨change, put⟩ := Form.exists_change_of_record read member (by rfl)
    obtain ⟨types, inside, _⟩ := Option.map_eq_some_iff.mp put
    exact Form.exists_of_listOf inside among

/-- The elements in a form that stands for a content type stand for some. -/
theorem Json.Form.HoldsElements.exists_ofForm? {type : Form}
    {members : List (Option String × Form)} {read : ContentType}
    (holds : type.HoldsElements members) (stands : ContentType.ofForm? type = some read) :
    ∃ elements, elementsOfForm? (.object members) = some elements := by
  -- The elements stand under their key, or as the second item of a list.
  cases holds with
  | member member =>
    obtain ⟨change, put⟩ := Form.exists_change_of_record stands member (by rfl)
    obtain ⟨elements, inside, _⟩ := Option.map_eq_some_iff.mp put
    exact ⟨elements, inside⟩
  | item =>
    obtain ⟨_, _, rest⟩ := Option.bind_eq_some_iff.mp stands
    obtain ⟨change, put, _⟩ := Option.bind_eq_some_iff.mp rest
    obtain ⟨elements, inside, _⟩ := Option.map_eq_some_iff.mp put
    exact ⟨elements, inside⟩

/-- Whatever a text says, the content types that are accepted from it have distinct codenames of
their elements, and nothing is accepted from a text that repeats a key among the elements of a
type. -/
theorem parseTypeListing_distinct :
    (∀ text types, parseTypeListing text = .ok types →
      ∀ type ∈ types, DistinctCodenames type.elements) ∧
    ∀ form text type members key, IsDocument form text → form.HoldsType type →
      type.HoldsElements members → [some key, some key].Sublist (members.map Prod.fst) →
        ∃ error, parseTypeListing text = .error error := by
  refine ⟨fun text types accepted type among => distinct_of_parseTypeListing accepted among,
    fun form text type members key valid holds elements twice => ?_⟩
  cases accepted : parseTypeListing text with
  | error error => exact ⟨error, rfl⟩
  | ok types =>
    -- If the text were accepted, the type and its elements would stand for something.
    obtain ⟨read, stands⟩ := holds.exists_ofForm? ((parseTypeListing_ok_iff valid).mp accepted)
    obtain ⟨made, built⟩ := elements.exists_ofForm? stands
    obtain ⟨last, built, _⟩ := Option.bind_eq_some_iff.mp built
    obtain ⟨keys, distinct⟩ := keys_of_foldlM_addElement? built List.nodup_nil
    -- The keys are the codenames of the elements, which are distinct.
    have apart : (members.map Prod.fst).Nodup := by
      rw [List.map_nil, List.map_nil, List.nil_append] at keys
      exact keys ▸ List.Nodup.map (fun _ _ => Option.some.inj) distinct
    exact absurd (apart.sublist twice) (by simp)

/-- A key that is written with an escape the second time is repeated. -/
theorem parseTypeListing_distinct_escaped :
    ∃ error, parseTypeListing ("[\x7b\"system\":\x7b\"codename\":\"t\"\x7d,\"elements\":" ++
      "\x7b\"a\":\x7b\"type\":\"text\"\x7d,\"\\u0061\":\x7b\"type\":\"text\"\x7d\x7d\x7d]") =
        .error error := by
  -- The escape of the letter spells the same key.
  have escaped : WrittenString (some "a") ['\x22', '\\', 'u', '0', '0', '6', '1', '\x22'] :=
    .mk (@Spells.numeric ['0', '0', '6', '1'] [] 0x61 _ ⟨rfl, rfl⟩ rfl rfl .done)
  have member {key : String} {name word : List Char} {form : Form}
      (named : WrittenString (some key) name) (written : Written form word) :
      WrittenMember (some key, form) (name ++ ':' :: word) :=
    -- Blanks stand nowhere in this text.
    .mk named blank_nil blank_nil written
  have object {first second : Option String × Form} {one other : List Char}
      (head : WrittenMember first one) (tail : WrittenMember second other) :=
    Written.object blank_nil head (.next blank_nil blank_nil tail (.done blank_nil))
  have single {only : Option String × Form} {one : List Char} (head : WrittenMember only one) :=
    Written.object blank_nil head (.done blank_nil)
  have element := single
    (member (writtenString_written "type") (.string (writtenString_written "text")))
  have system := single
    (member (writtenString_written "codename") (.string (writtenString_written "t")))
  -- The object of the elements has the key twice, once with the escape.
  have elements := object (member (writtenString_written "a") element) (member escaped element)
  have type := object (member (writtenString_written "system") system)
    (member (writtenString_written "elements") elements)
  exact parseTypeListing_distinct.2 _ _ _ _ "a"
    (.mk blank_nil (.list blank_nil type (.done blank_nil)) blank_nil (by decide))
    (.bare (.head _)) (.member (.tail _ (.head _))) (.refl _)

end ContentClasses
