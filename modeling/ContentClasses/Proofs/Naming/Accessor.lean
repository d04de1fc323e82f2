import ContentClasses.Proofs.Naming.Member

/-! Behind its opening, an accessor of the member for an ASCII codename has the name of the class
for that codename, unless the codename begins with an acronym, which only the class name keeps in
capitals. -/

namespace ContentClasses

/-- The two cases of a character are the same exactly if it is no letter. -/
theorem toLower_eq_toUpper_iff {c : Char} : c.toLower = c.toUpper ↔ c.isAlpha = false := by
  constructor
  · -- The capital of a letter is a capital, and its small form is none.
    intro same
    simpa using (congrArg Char.isUpper same).symm
  · intro other
    obtain ⟨upper, lower⟩ := Bool.or_eq_false_iff.mp other
    rw [Char.toLower_eq_of_not_isUpper (by simp [upper]),
      Char.toUpper_eq_of_not_isLower (by simp [lower])]

namespace Naming

variable {naming : Naming} {codename : String}

/-- A word is cased with one capital exactly if it is no acronym with a letter behind its first
character. -/
theorem casedWord_cons_iff {first : Char} {rest : List Char} :
    naming.casedWord (first :: rest) = first.toUpper :: rest.map Char.toLower ↔
      (naming.IsAcronym (first :: rest) → ∀ c ∈ rest, c.isAlpha = false) := by
  by_cases acronym : naming.IsAcronym (first :: rest)
  · -- Capitals throughout and one capital in front differ in the letters behind the first.
    rw [casedWord_acronym acronym, List.map_cons, List.cons.injEq, and_iff_right rfl,
      List.map_inj_left, imp_iff_right acronym]
    exact forall₂_congr fun c _ => eq_comm.trans toLower_eq_toUpper_iff
  · exact iff_of_true (casedWord_plain acronym) fun given => absurd given acronym

/-- With its first character in capitals, the member name for an ASCII codename has one capital in
its first word and the others cased. -/
theorem capitalized_memberName (ascii : ∀ c ∈ codename.toList, c.toNat < 0x80) {first : Char}
    {later : List Char} {rest : List (List Char)}
    (words : codenameWords codename.toList = (first :: later) :: rest) :
    capitalized (naming.memberName codename).toList =
      first.toUpper :: later.map Char.toLower ++ rest.flatMap naming.casedWord := by
  -- The capital of the small form is that of the character itself.
  rw [capitalized_ascii (memberName_ascii ascii), toList_memberName words, List.map_cons,
    List.cons_append, List.modifyHead_cons, Char.toUpper_toLower_eq_toUpper, List.cons_append]

/-- For an ASCII codename the name of an accessor is its opening and the class name exactly if the
first word is no acronym with a letter behind its first character. -/
theorem accessorName_memberName_iff (ascii : ∀ c ∈ codename.toList, c.toNat < 0x80)
    (kind : AccessorKind) :
    accessorName kind (naming.memberName codename) = kind.opening ++ naming.typeName codename ↔
      ∀ first ∈ (codenameWords codename.toList).head?, naming.IsAcronym first →
        ∀ c ∈ first.tail, c.isAlpha = false := by
  rw [← String.toList_inj, accessorName, String.toList_append, String.toList_append,
    String.toList_ofList, List.append_cancel_left_eq, typeName, String.toList_ofList]
  cases words : codenameWords codename.toList with
  | nil => simp [toList_memberName_nil words, capitalized]
  | cons first rest =>
    obtain ⟨c, later, rfl⟩ := exists_of_codenameWords_eq_cons words
    -- All words but the first are cased alike in both names.
    rw [capitalized_memberName ascii words, List.flatMap_cons, List.append_cancel_right_eq, eq_comm,
      casedWord_cons_iff]
    simp

/-- For an ASCII codename that does not begin with an acronym, the name of an accessor is its
opening and the class name. -/
theorem accessorName_memberName (ascii : ∀ c ∈ codename.toList, c.toNat < 0x80)
    (plain : ∀ first ∈ (codenameWords codename.toList).head?, ¬ naming.IsAcronym first)
    (kind : AccessorKind) :
    accessorName kind (naming.memberName codename) = kind.opening ++ naming.typeName codename :=
  (accessorName_memberName_iff ascii kind).mpr fun first opening acronym =>
    absurd acronym (plain first opening)

/-- A digit in front, an acronym later on and underscores in excess do no harm. -/
theorem accessorName_memberName_digit :
    let naming : Naming := ⟨.ofList ["SKU", "URL"]⟩
    let codename := "_2nd__best_sku"
    (∀ c ∈ codename.toList, c.toNat < 0x80) ∧
      (∀ first ∈ (codenameWords codename.toList).head?, ¬ naming.IsAcronym first) ∧
      accessorName .setter (naming.memberName codename) = "set" ++ naming.typeName codename ∧
      naming.typeName codename = "2ndBestSKU" := by
  intro naming codename
  have ascii : ∀ c ∈ codename.toList, c.toNat < 0x80 := by simp [codename]
  have plain : ∀ first ∈ (codenameWords codename.toList).head?, ¬ naming.IsAcronym first := by
    decide
  exact ⟨ascii, plain, accessorName_memberName ascii plain .setter, by decide⟩

/-- An acronym in front has one capital in the name of an accessor, and only capitals in that of the
class. -/
example :
    let naming : Naming := ⟨.ofList ["URL"]⟩
    accessorName .getter (naming.memberName "url_path") = "getUrlPath" ∧
      naming.typeName "url_path" = "URLPath" := by
  decide

end Naming

end ContentClasses
