import ContentClasses.Proofs.Json.Inside
import ContentClasses.Proofs.Schema.Forms

/-! The two forms of a listing agree: what is accepted as a bare list of content types is accepted
with the same types where it stands as the only member of a listing. -/

namespace ContentClasses

open Json Scan

section

variable {least : Nat} {text : List Char}

/-- An element is not disturbed. -/
theorem readsInside_element (codename : String) :
    ReadsInside least text (readElement codename) (readElement codename) := by
  -- Both fields of an element are texts, and the second may be missing.
  refine readsInside_record (fun field among => ?_) _ _
  simp only [List.mem_cons, List.not_mem_nil, or_false] at among
  rcases among with rfl | rfl
  · exact RecordField.readsInside_of (readsInside_text _) _ _ _
  · exact RecordField.readsInside_of (readsInside_optional (readsInside_text _)) _ _ _

/-- The elements of a content type are not disturbed, and a repeated codename is refused anyway. -/
theorem readsInside_elements : ReadsInside least text readElements readElements :=
  readsInside_object
    -- Each element is read behind its colon, and the codenames before it only decide.
    (fun codename _ => .bind readsInside_colon fun _ _ => .bind (readsInside_element codename)
      fun _ _ => .ite (fun _ => .of_fails rfl) fun _ => .pure)
    (fun _ => .pure) _

/-- The codename and the display name of a content type are not disturbed. -/
theorem readsInside_system : ReadsInside least text readSystem readSystem := by
  -- Both fields are texts, as they are for an element.
  refine readsInside_record (fun field among => ?_) _ _
  simp only [List.mem_cons, List.not_mem_nil, or_false] at among
  rcases among with rfl | rfl
  · exact RecordField.readsInside_of (readsInside_text _) _ _ _
  · exact RecordField.readsInside_of (readsInside_optional (readsInside_text _)) _ _ _

/-- A content type is not disturbed. -/
theorem readsInside_contentType : ReadsInside least text readContentType readContentType := by
  -- The two fields are records and objects of their own.
  refine readsInside_record (fun field among => ?_) _ _
  simp only [List.mem_cons, List.not_mem_nil, or_false] at among
  rcases among with rfl | rfl
  · exact RecordField.readsInside_of readsInside_system _ _ _
  · exact RecordField.readsInside_of readsInside_elements _ _ _

end

/-- A listing that consists of a list of content types and maybe blanks has those content types. -/
theorem run?_readListing_types {text gap : List Char} {types : List ContentType}
    (read : (Scan.list readContentType).run? (text ++ ['\x7d']) = some (types, gap ++ ['\x7d']))
    (blank : Blank gap) :
    readListing.run? ('\x7b' :: ("\"types\":".toList ++ (text ++ ['\x7d']))) =
      some ({ types }, []) := by
  -- Whatever the list is, the reader finds the key, the colon and then the list.
  have named : (nextKey true).run? ("\"types\":".toList ++ (text ++ ['\x7d'])) =
      some (some "types", ':' :: (text ++ ['\x7d'])) := rfl
  generalize "\"types\":".toList ++ (text ++ ['\x7d']) = whole at named ⊢
  have start : valueStart.run? ('\x7b' :: whole) = some ('\x7b', '\x7b' :: whole) := rfl
  have colons := run?_colon blank_nil (text ++ ['\x7d'])
  rw [List.nil_append] at colons
  rw [readListing, Scan.record, run?_bind, start, Option.bind_some]
  exact @run?_object_only _ _ _ _ ({ types }, ["types"]) _ _ _ _ _ _ [] named
    (by simp [recordMember, RecordField.of, colons, read]) blank rfl _

/-- What is accepted as a bare list of content types is accepted as the only member of a listing,
and with the same types. -/
theorem parseTypeListing_bare_in_listing {text : String} {types : List ContentType}
    (bare : (text.toList.dropWhile isSpace).head? = some '[')
    (accepted : parseTypeListing text = .ok types) :
    parseTypeListing ("\x7b\"types\":" ++ text ++ "\x7d") = .ok types := by
  rw [parseTypeListing, if_pos bare] at accepted
  obtain ⟨gap, read, blank⟩ := readDocument_ok_iff.mp accepted
  -- The list itself is read alike in front of the closing brace.
  have inside := ((readsInside_list readsInside_contentType _ : ReadsInside 0 _ _ _) _ _ read).2
    (Nat.zero_le _) []
  have opening : ("\x7b\"types\":" ++ text ++ "\x7d").toList =
      '\x7b' :: ("\"types\":".toList ++ (text.toList ++ ['\x7d'])) := by simp
  have listing : readDocument readListing ("\x7b\"types\":" ++ text ++ "\x7d") =
      .ok { types } :=
    readDocument_ok_iff.mpr ⟨[], opening ▸ run?_readListing_types inside blank, blank_nil⟩
  -- The opening brace is the first visible character now.
  have apart : ((("\x7b\"types\":" ++ text ++ "\x7d").toList).dropWhile isSpace).head? ≠
      some '[' := by
    rw [opening]
    simp [show isSpace '\x7b' = false by decide]
  rw [parseTypeListing, if_neg apart, listing]
  rfl

/-- A list with blanks around it, with its members in another order and with one that nobody asked
for. -/
theorem parseTypeListing_bare_in_listing_unknown :
    parseTypeListing ("\x7b\"types\":" ++ (" [\x7b\"elements\":\x7b\"a\":" ++
      "\x7b\"type\":\"text\"\x7d\x7d,\"id\":[\x7b\x7d,-1],\"system\":" ++
        "\x7b\"codename\":\"t\"\x7d\x7d ] ") ++ "\x7d") =
      .ok [{ codename := "t", elements := [{ codename := "a", tag := "text" }] }] :=
  parseTypeListing_bare_in_listing (by decide) (by rfl)

end ContentClasses
