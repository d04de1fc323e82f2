import ContentClasses.Proofs.Naming.Identifier

/-! Member names have no underscore and open with no capital, so that members with different ASCII
names have accessors with different names. -/

namespace ContentClasses

section

variable {c d : Char}

/-- The capitals are a range of characters. -/
theorem isUpper_iff_toNat : c.isUpper = true ↔ 65 ≤ c.toNat ∧ c.toNat ≤ 90 := by
  simp [Char.isUpper, UInt32.le_iff_toNat_le, ← Char.toNat_val]

/-- The small letters are a range of characters. -/
theorem isLower_iff_toNat : c.isLower = true ↔ 97 ≤ c.toNat ∧ c.toNat ≤ 122 := by
  simp [Char.isLower, UInt32.le_iff_toNat_le, ← Char.toNat_val]

/-- The digits are a range of characters. -/
theorem isDigit_iff_toNat : c.isDigit = true ↔ 48 ≤ c.toNat ∧ c.toNat ≤ 57 :=
  Char.isDigit_iff_toNat

/-- Letters and digits are ASCII characters. -/
theorem toNat_lt_of_isAlphanum (given : c.isAlphanum = true) : c.toNat < 0x80 := by
  simp only [Char.isAlphanum, Char.isAlpha, Bool.or_eq_true, isUpper_iff_toNat, isLower_iff_toNat,
    isDigit_iff_toNat] at given
  omega

/-- A letter is no digit. -/
theorem isDigit_eq_false_of_isAlpha (letter : c.isAlpha = true) : c.isDigit = false := by
  rw [Char.isAlpha, Bool.or_eq_true, isUpper_iff_toNat, isLower_iff_toNat] at letter
  rw [← Bool.not_eq_true, isDigit_iff_toNat]
  omega

/-- A digit is no letter. -/
theorem isAlpha_eq_false_of_isDigit (digit : c.isDigit = true) : c.isAlpha = false := by
  by_contra letter
  simp [isDigit_eq_false_of_isAlpha (by simpa using letter)] at digit

/-- No digit is a capital. -/
theorem isUpper_eq_false_of_isDigit (digit : c.isDigit = true) : c.isUpper = false :=
  (Bool.or_eq_false_iff.mp (isAlpha_eq_false_of_isDigit digit)).1

/-- The capital of an ASCII character is one. -/
theorem toNat_toUpper_lt (ascii : c.toNat < 0x80) : c.toUpper.toNat < 0x80 := by
  -- A character that changes becomes a letter.
  by_cases given : c.toUpper.isAlphanum = true
  · exact toNat_lt_of_isAlphanum given
  · rwa [eq_of_toUpper_not_isAlphanum (by simpa using given)]

/-- The small form of an ASCII character is one. -/
theorem toNat_toLower_lt (ascii : c.toNat < 0x80) : c.toLower.toNat < 0x80 := by
  by_cases given : c.toLower.isAlphanum = true
  · exact toNat_lt_of_isAlphanum given
  · rwa [eq_of_toLower_not_isAlphanum (by simpa using given)]

/-- Characters that are no capitals have different capitals. -/
theorem eq_of_toUpper_eq (smallLeft : c.isUpper = false) (smallRight : d.isUpper = false)
    (same : c.toUpper = d.toUpper) : c = d := by
  -- The small form of the capital is the character itself.
  have left : c.toLower = c := Char.toLower_eq_of_not_isUpper (by simp [smallLeft])
  have right : d.toLower = d := Char.toLower_eq_of_not_isUpper (by simp [smallRight])
  rw [← left, ← right, ← Char.toLower_toUpper_eq_toLower c, same, Char.toLower_toUpper_eq_toLower]

end

namespace Naming

variable {naming : Naming} {codename : String}

/-- The words of a codename have no underscore. -/
theorem not_mem_codenameWords {word : List Char} (among : word ∈ codenameWords codename.toList) :
    '_' ∉ word := by
  intro inside
  exact ((mem_pieces among).2 '_' inside).2 rfl

/-- Without words there is nothing in a member name. -/
theorem toList_memberName_nil (words : codenameWords codename.toList = []) :
    (naming.memberName codename).toList = [] := by
  rw [memberName, String.toList_ofList, words]

/-- A member name has its first word in small letters and then the others cased. -/
theorem toList_memberName {first : List Char} {rest : List (List Char)}
    (words : codenameWords codename.toList = first :: rest) :
    (naming.memberName codename).toList =
      first.map Char.toLower ++ rest.flatMap naming.casedWord := by
  rw [memberName, String.toList_ofList, words]

/-- A character of a member name is the capital or the small form of one in a word. -/
theorem mem_memberName {c : Char} (member : c ∈ (naming.memberName codename).toList) :
    ∃ word ∈ codenameWords codename.toList, ∃ original ∈ word,
      c = original.toUpper ∨ c = original.toLower := by
  -- The first word gives its small forms, and the later ones are cased.
  cases words : codenameWords codename.toList with
  | nil =>
    rw [toList_memberName_nil words] at member
    cases member
  | cons first rest =>
    rw [toList_memberName words] at member
    rcases List.mem_append.mp member with small | later
    · obtain ⟨original, inside, rfl⟩ := List.mem_map.mp small
      exact ⟨first, List.mem_cons_self, original, inside, .inr rfl⟩
    · obtain ⟨word, among, cased⟩ := List.mem_flatMap.mp later
      exact ⟨word, List.mem_cons_of_mem first among, mem_casedWord cased⟩

/-- A member name has no underscore. -/
theorem underscore_not_mem_memberName : '_' ∉ (naming.memberName codename).toList := by
  intro member
  obtain ⟨word, among, original, inside, form⟩ := mem_memberName member
  -- An underscore is no letter, so it would stand in the word already.
  have kept : original = '_' := by
    rcases form with upper | lower
    · rw [upper]
      exact (eq_of_toUpper_not_isAlphanum (by rw [← upper]; decide)).symm
    · rw [lower]
      exact (eq_of_toLower_not_isAlphanum (by rw [← lower]; decide)).symm
  exact not_mem_codenameWords among (kept ▸ inside)

/-- The member name for an ASCII codename is ASCII. -/
theorem memberName_ascii (ascii : ∀ c ∈ codename.toList, c.toNat < 0x80) :
    ∀ c ∈ (naming.memberName codename).toList, c.toNat < 0x80 := by
  -- The forms of an ASCII character are ASCII.
  intro c member
  obtain ⟨word, among, original, inside, form⟩ := mem_memberName member
  have given := ascii original ((mem_pieces among).2 original inside).1
  rcases form with rfl | rfl
  · exact toNat_toUpper_lt given
  · exact toNat_toLower_lt given

/-- The first word of a codename has a first character. -/
theorem exists_of_codenameWords_eq_cons {first : List Char} {rest : List (List Char)}
    (words : codenameWords codename.toList = first :: rest) : ∃ c later, first = c :: later := by
  have among : first ∈ codenameWords codename.toList := by simp [words]
  exact List.exists_cons_of_ne_nil (mem_pieces among).1

/-- A member name opens with the small form of the first character of the first word. -/
theorem head?_memberName :
    (naming.memberName codename).toList.head? =
      ((codenameWords codename.toList).head?.bind List.head?).map Char.toLower := by
  -- The first word has a first character, since empty words are dropped.
  cases words : codenameWords codename.toList with
  | nil => simp [toList_memberName_nil words]
  | cons first rest =>
    obtain ⟨c, later, rfl⟩ := exists_of_codenameWords_eq_cons words
    simp [toList_memberName words]

end Naming

/-- Capitals change only the first character of an ASCII text, and to a single one. -/
theorem capitalized_ascii {text : List Char} (ascii : ∀ c ∈ text, c.toNat < 0x80) :
    capitalized text = text.modifyHead Char.toUpper := by
  cases text with
  | nil => rfl
  | cons first rest =>
    -- The tables of long capitals are for other characters.
    have opening : first.toNat < 0x80 := ascii first List.mem_cons_self
    rw [capitalized, capital, if_pos opening]
    rfl

/-- A character of an accessor's name is one of its opening, or one of the member or its capital. -/
theorem mem_accessorName {kind : AccessorKind} {name : String} {c : Char}
    (ascii : ∀ c ∈ name.toList, c.toNat < 0x80) (member : c ∈ (accessorName kind name).toList) :
    c ∈ kind.opening.toList ∨ c ∈ name.toList ∨
      ∃ original ∈ name.toList, c = original.toUpper := by
  -- The opening is text of its own, and behind it only the first character of the name is raised.
  rw [accessorName, String.toList_append, String.toList_ofList, capitalized_ascii ascii] at member
  refine (List.mem_append.mp member).imp_right fun behind => ?_
  cases letters : name.toList with
  | nil => simp [letters] at behind
  | cons first rest =>
    rw [letters, List.modifyHead_cons] at behind
    rcases List.mem_cons.mp behind with upper | later
    · exact .inr ⟨first, List.mem_cons_self, upper⟩
    · exact .inl (List.mem_cons_of_mem first later)

/-- A name as members of ASCII codenames have it. -/
structure IsMemberName (name : String) : Prop where
  ascii : ∀ c ∈ name.toList, c.toNat < 0x80
  joined : '_' ∉ name.toList
  /-- The name does not open with a capital. -/
  uncapped : ∀ c ∈ name.toList.head?, c.isUpper = false

/-- The member name for an ASCII codename is one. -/
theorem Naming.isMemberName_memberName (naming : Naming) {codename : String}
    (ascii : ∀ c ∈ codename.toList, c.toNat < 0x80) :
    IsMemberName (naming.memberName codename) := by
  -- The words are without underscores, and the first of them is small.
  refine ⟨memberName_ascii ascii, underscore_not_mem_memberName, ?_⟩
  intro c opening
  rw [head?_memberName] at opening
  obtain ⟨original, -, rfl⟩ := Option.map_eq_some_iff.mp opening
  exact Char.isUpper_toLower_eq_false original

namespace IsMemberName

variable {name left right : String}

/-- A numbered variant of a member name is one. -/
theorem numbered (given : IsMemberName name) (suffix : Nat) :
    IsMemberName (numbered name suffix) := by
  have digit {c : Char} (member : c ∈ Nat.toDigits 10 suffix) : c.isDigit = true :=
    Nat.isDigit_of_mem_toDigits (by decide) (by decide) member
  refine ⟨fun c member => ?_, fun member => ?_, fun c opening => ?_⟩
  · rw [toList_numbered, List.mem_append] at member
    rcases member with base | numeral
    · exact given.ascii c base
    · exact toNat_lt_of_isAlphanum (by simp [Char.isAlphanum, digit numeral])
  · -- The numeral has digits only.
    rw [toList_numbered, List.mem_append] at member
    rcases member with base | numeral
    · exact given.joined base
    · exact absurd (digit numeral) (by decide)
  · -- Only behind the empty name does the numeral come first.
    rw [toList_numbered, List.head?_append] at opening
    rcases Option.or_eq_some_iff.mp opening with base | ⟨-, numeral⟩
    · exact given.uncapped c base
    · exact isUpper_eq_false_of_isDigit (digit (List.mem_of_head? numeral))

/-- The first free variant of a member name is one. -/
theorem firstFree (given : IsMemberName name) (taken : List String) :
    IsMemberName (firstFree name taken) :=
  firstFree_of_variants given given.numbered taken

/-- Only the first character of a member name is changed by capitals, and to a single one. -/
theorem capitalized_eq (given : IsMemberName name) :
    capitalized name.toList = name.toList.modifyHead Char.toUpper :=
  capitalized_ascii given.ascii

/-- Member names that are equal in capitals are equal. -/
theorem eq_of_capitalized (givenLeft : IsMemberName left) (givenRight : IsMemberName right)
    (same : capitalized left.toList = capitalized right.toList) : left = right := by
  -- Capitals are taken at the front only, so the rest is the same anyway.
  rw [givenLeft.capitalized_eq, givenRight.capitalized_eq] at same
  rw [← String.toList_inj]
  cases lettersLeft : left.toList with
  | nil =>
    cases lettersRight : right.toList with
    | nil => rfl
    | cons other later => simp [lettersLeft, lettersRight] at same
  | cons first rest =>
    cases lettersRight : right.toList with
    | nil => simp [lettersLeft, lettersRight] at same
    | cons other later =>
      rw [lettersLeft, lettersRight, List.modifyHead_cons, List.modifyHead_cons,
        List.cons.injEq] at same
      -- Neither of the first characters is a capital already.
      have equal := eq_of_toUpper_eq (givenLeft.uncapped first (by simp [lettersLeft]))
        (givenRight.uncapped other (by simp [lettersRight])) same.1
      rw [equal, same.2]

/-- Accessors with one name are of one kind and for one member name. -/
theorem eq_of_accessorName {kind other : AccessorKind} (givenLeft : IsMemberName left)
    (givenRight : IsMemberName right)
    (same : accessorName kind left = accessorName other right) : kind = other ∧ left = right := by
  have letters := congrArg String.toList same
  simp only [accessorName, String.toList_append, String.toList_ofList] at letters
  -- The two openings differ in their first character.
  have kinds : kind = other := by
    cases kind <;> cases other <;> simp_all [AccessorKind.opening]
  subst kinds
  exact ⟨rfl, givenLeft.eq_of_capitalized givenRight (List.append_cancel_left letters)⟩

/-- An accessor's name has no underscore. -/
theorem underscore_not_mem_accessorName (given : IsMemberName name) (kind : AccessorKind) :
    '_' ∉ (accessorName kind name).toList := by
  intro member
  rcases mem_accessorName given.ascii member with opening | own | ⟨original, inside, upper⟩
  · cases kind <;> exact absurd opening (by decide)
  · exact given.joined own
  · -- An underscore is no letter, so it would stand in the name already.
    have kept : original.toUpper = original :=
      eq_of_toUpper_not_isAlphanum (by rw [← upper]; decide)
    exact given.joined ((upper.trans kept) ▸ inside)

end IsMemberName

end ContentClasses
