import ContentClasses.Proofs.Naming.Member

/-! The names made of a snake-case codename open with a digit exactly if the codename does. -/

namespace ContentClasses

/-- Whether a name has a digit in front. -/
def opensWithDigit (name : String) : Bool :=
  name.toList.head?.any Char.isDigit

/-- The capital of a character is a digit exactly if the character is one. -/
theorem isDigit_toUpper (c : Char) : c.toUpper.isDigit = c.isDigit := by
  -- Only small letters change, and they become letters.
  by_cases lower : c.isLower = true
  · rw [isDigit_eq_false_of_isAlpha (c := c) (by simp [Char.isAlpha, lower])]
    exact isDigit_eq_false_of_isAlpha (by simp [Char.isAlpha, lower])
  · rw [Char.toUpper_eq_of_not_isLower lower]

/-- The small form of a character is a digit exactly if the character is one. -/
theorem isDigit_toLower (c : Char) : c.toLower.isDigit = c.isDigit := by
  -- Only a capital changes, and its small form is a letter.
  by_cases upper : c.isUpper = true
  · rw [isDigit_eq_false_of_isAlpha (c := c) (by simp [Char.isAlpha, upper])]
    exact isDigit_eq_false_of_isAlpha (by simp [Char.isAlpha, upper])
  · rw [Char.toLower_eq_of_not_isUpper upper]

/-- The first word of a snake-case codename opens with the codename's own first character. -/
theorem head?_codenameWords {codename : String} (snake : isSnakeCase codename = true) :
    (codenameWords codename.toList).head?.bind List.head? = codename.toList.head? := by
  -- The words are all there is between the underscores, so together they spell the codename.
  have joined := intercalate_codenameWords snake
  cases words : codenameWords codename.toList with
  | nil => exact absurd words (codenameWords_ne_nil snake)
  | cons first rest =>
    obtain ⟨c, later, rfl⟩ := Naming.exists_of_codenameWords_eq_cons words
    rw [words] at joined
    cases rest <;> simp [← joined, List.intercalate_cons_cons]

namespace Naming

variable {naming : Naming} {codename : String}

/-- A cased word opens with the capital of its first character. -/
theorem head?_casedWord (word : List Char) :
    (naming.casedWord word).head? = word.head?.map Char.toUpper := by
  -- Capitals throughout and one capital in front begin alike.
  by_cases acronym : naming.IsAcronym word
  · rw [casedWord_acronym acronym, List.head?_map]
  · cases word with
    | nil => rw [casedWord_nil]; rfl
    | cons first rest => rw [casedWord_plain acronym]; rfl

/-- A class name opens with the capital of the first character of the first word. -/
theorem head?_typeName :
    (naming.typeName codename).toList.head? =
      ((codenameWords codename.toList).head?.bind List.head?).map Char.toUpper := by
  rw [typeName, String.toList_ofList]
  cases words : codenameWords codename.toList with
  | nil => rfl
  | cons first rest =>
    obtain ⟨c, later, rfl⟩ := exists_of_codenameWords_eq_cons words
    -- The first word is not empty, so nothing of the later ones comes first.
    rw [List.flatMap_cons, List.head?_append, head?_casedWord]
    rfl

/-- The class name for a snake-case codename opens with a digit exactly if the codename does. -/
theorem opensWithDigit_typeName (snake : isSnakeCase codename = true) :
    opensWithDigit (naming.typeName codename) = opensWithDigit codename := by
  simp only [opensWithDigit, head?_typeName, head?_codenameWords snake, Option.any_map,
    isDigit_toUpper]

/-- The member name for a snake-case codename opens with a digit exactly if the codename does. -/
theorem opensWithDigit_memberName (snake : isSnakeCase codename = true) :
    opensWithDigit (naming.memberName codename) = opensWithDigit codename := by
  simp only [opensWithDigit, head?_memberName, head?_codenameWords snake, Option.any_map,
    isDigit_toLower]

/-- The member name for a snake-case codename is made of ASCII letters and digits. -/
theorem memberName_isAlphanumeric (naming : Naming) (snake : isSnakeCase codename = true) :
    IsAlphanumeric (naming.memberName codename) := by
  refine ⟨fun empty => ?_, fun c member => ?_⟩
  · -- The codename has a first character, and the name opens with its small form.
    have opening : (naming.memberName codename).toList.head? =
        codename.toList.head?.map Char.toLower := by
      rw [head?_memberName, head?_codenameWords snake]
    rw [empty] at opening
    have none : codename.toList = [] := by simpa using opening.symm
    rw [isSnakeCase, none] at snake
    cases snake
  · obtain ⟨word, among, original, inside, form⟩ := mem_memberName member
    have given := isAlphanum_of_isSnakeChar ((isSnakeWord_of_mem snake among).2 original inside)
    rcases form with rfl | rfl
    · exact isAlphanum_toUpper given
    · exact isAlphanum_toLower given

end Naming

/-- The first free variant of a name opens as the name does. -/
theorem opensWithDigit_firstFree {name : String} (present : name ≠ "") (taken : List String) :
    opensWithDigit (firstFree name taken) = opensWithDigit name := by
  refine firstFree_of_variants (motive := fun variant =>
    opensWithDigit variant = opensWithDigit name) rfl (fun suffix => ?_) taken
  -- The numeral stands behind the name.
  obtain ⟨first, rest, letters⟩ :=
    List.exists_cons_of_ne_nil (mt String.toList_eq_nil_iff.mp present)
  simp only [opensWithDigit, toList_numbered, letters, List.cons_append, List.head?_cons]

/-- The accessors of an alphanumeric name are alphanumeric. -/
theorem IsAlphanumeric.accessorName {name : String} (given : IsAlphanumeric name)
    (kind : AccessorKind) : IsAlphanumeric (accessorName kind name) := by
  refine ⟨fun empty => ?_, fun c member => ?_⟩
  · -- The word in front is there whatever the member is called.
    have letters := congrArg String.toList empty
    rw [ContentClasses.accessorName, String.toList_append] at letters
    cases kind <;> simp [AccessorKind.opening] at letters
  · have letters : ∀ c ∈ kind.opening.toList, c.isAlphanum = true := by
      cases kind <;> simp [AccessorKind.opening]
    have ascii : ∀ c ∈ name.toList, c.toNat < 0x80 := fun c inside =>
      toNat_lt_of_isAlphanum (given.2 c inside)
    rcases mem_accessorName ascii member with opening | own | ⟨original, inside, rfl⟩
    · exact letters c opening
    · exact given.2 c own
    · exact isAlphanum_toUpper (given.2 original inside)

end ContentClasses
