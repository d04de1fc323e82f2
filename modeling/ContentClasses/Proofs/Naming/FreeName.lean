import ContentClasses.Naming.FreeName

/-! The search for a free name ends, and its result is the least variant that is not taken. -/

namespace ContentClasses

/-- The decimal numeral of a number, as its characters. -/
@[simp] theorem toList_numbered (base : String) (suffix : Nat) :
    (numbered base suffix).toList = base.toList ++ Nat.toDigits 10 suffix := by
  simp [numbered]

/-- Different numbers give different variants of a name. -/
theorem numbered_injective (base : String) : Function.Injective (numbered base) := by
  -- Behind the common base stand two numerals, and each is read back as its number.
  intro left right same
  have digits : Nat.toDigits 10 left = Nat.toDigits 10 right := by
    simpa using congrArg String.toList same
  rw [← Nat.ofDigitChars_ten_toDigits (n := left), digits, Nat.ofDigitChars_ten_toDigits]

/-- A numbered variant is never the name itself. -/
theorem numbered_ne (base : String) (suffix : Nat) : numbered base suffix ≠ base := by
  -- A numeral has at least one digit, so the variant is longer.
  intro same
  have longer := congrArg (fun name : String => name.toList.length) same
  have digit : 0 < (Nat.toDigits 10 suffix).length := Nat.length_toDigits_pos
  simp only [toList_numbered, List.length_append] at longer
  omega

/-- A suffix that is found is free, lies within the budget, and is the least one that is free. -/
theorem freeSuffix?_some {base : String} {taken : List String} {budget start suffix : Nat}
    (found : freeSuffix? base taken budget start = some suffix) :
    start ≤ suffix ∧ suffix < start + budget ∧ numbered base suffix ∉ taken ∧
      ∀ smaller, start ≤ smaller → smaller < suffix → numbered base smaller ∈ taken := by
  -- The search moves on from a suffix only if its variant is taken.
  induction budget generalizing start with
  | zero => simp [freeSuffix?] at found
  | succ budget ih =>
    simp only [freeSuffix?, List.contains_iff_mem] at found
    split at found
    · rename_i occupied
      obtain ⟨above, within, free, least⟩ := ih found
      refine ⟨by omega, by omega, free, fun smaller lower upper => ?_⟩
      rcases Nat.eq_or_lt_of_le lower with rfl | later
      · exact occupied
      · exact least smaller later upper
    · rename_i free
      cases found
      exact ⟨by omega, by omega, free, fun smaller lower upper => by omega⟩

/-- A search that finds nothing has met only variants that are taken. -/
theorem freeSuffix?_none {base : String} {taken : List String} {budget start : Nat}
    (failed : freeSuffix? base taken budget start = none) :
    ∀ suffix, start ≤ suffix → suffix < start + budget → numbered base suffix ∈ taken := by
  -- Each turn of the failed search looks at one suffix and finds it occupied.
  induction budget generalizing start with
  | zero => intro suffix lower upper; omega
  | succ budget ih =>
    intro suffix lower upper
    simp only [freeSuffix?, List.contains_iff_mem] at failed
    split at failed
    · rename_i occupied
      rcases Nat.eq_or_lt_of_le lower with rfl | later
      · exact occupied
      · exact ih failed suffix later (by omega)
    · cases failed

/-- As many suffixes as there are taken names include a free one, if the name itself is taken. -/
theorem freeSuffix?_exists {base : String} {taken : List String} (occupied : base ∈ taken)
    (start : Nat) : ∃ suffix, freeSuffix? base taken taken.length start = some suffix := by
  -- Otherwise the name and all these variants were more different names than are taken.
  cases searched : freeSuffix? base taken taken.length start with
  | some suffix => exact ⟨suffix, rfl⟩
  | none =>
    have variants := freeSuffix?_none searched
    have distinct :
        (base :: (List.range' start taken.length).map (numbered base)).Nodup := by
      refine List.nodup_cons.mpr ⟨?_, ?_⟩
      · simp only [List.mem_map, not_exists, not_and]
        exact fun suffix _ => numbered_ne base suffix
      · exact List.Pairwise.map _ (fun left right different same =>
          different (numbered_injective base same)) List.nodup_range'
    have allTaken : (base :: (List.range' start taken.length).map (numbered base)) ⊆ taken := by
      intro name member
      rcases List.mem_cons.mp member with rfl | member
      · exact occupied
      · obtain ⟨suffix, range, rfl⟩ := List.mem_map.mp member
        have bounds := List.mem_range'_1.mp range
        exact variants suffix bounds.1 bounds.2
    have crowded := distinct.length_le_of_subset allTaken
    simp only [List.length_cons, List.length_map, List.length_range'] at crowded
    omega

/-- A name is the wanted one if that is free, and else its variant with the least free number from
two on. -/
def IsFirstFree (wanted : String) (taken : List String) (name : String) : Prop :=
  (wanted ∉ taken → name = wanted) ∧
  (wanted ∈ taken → ∃ suffix, 2 ≤ suffix ∧ name = numbered wanted suffix ∧
    numbered wanted suffix ∉ taken ∧
    ∀ smaller, 2 ≤ smaller → smaller < suffix → numbered wanted smaller ∈ taken)

/-- If a name is taken, the search answers its variant with the least free suffix, which is larger
than the number of taken names by one at most. -/
theorem firstFree_of_mem {base : String} {taken : List String} (occupied : base ∈ taken) :
    ∃ suffix, freeSuffix? base taken taken.length 2 = some suffix ∧
      firstFree base taken = numbered base suffix ∧ 2 ≤ suffix ∧ suffix ≤ taken.length + 1 ∧
      numbered base suffix ∉ taken ∧
      ∀ smaller, 2 ≤ smaller → smaller < suffix → numbered base smaller ∈ taken := by
  -- The fallback to a taken name is never reached, because the budget is large enough.
  obtain ⟨suffix, found⟩ := freeSuffix?_exists occupied 2
  obtain ⟨lower, upper, free, least⟩ := freeSuffix?_some found
  exact ⟨suffix, found, by simp [firstFree, occupied, found], lower, by omega, free, least⟩

/-- The search answers the first free name, whatever names are taken. -/
theorem firstFree_isFirstFree (wanted : String) (taken : List String) :
    IsFirstFree wanted taken (firstFree wanted taken) := by
  refine ⟨fun free => by simp [firstFree, free], fun occupied => ?_⟩
  obtain ⟨suffix, -, answer, lower, -, free, least⟩ := firstFree_of_mem occupied
  exact ⟨suffix, lower, answer, free, least⟩

/-- The name that the search answers is not taken. -/
theorem firstFree_not_mem (wanted : String) (taken : List String) :
    firstFree wanted taken ∉ taken := by
  -- The name is kept only if it is free, and a variant is free when it is found.
  obtain ⟨kept, renamed⟩ := firstFree_isFirstFree wanted taken
  by_cases occupied : wanted ∈ taken
  · obtain ⟨suffix, _, same, free, _⟩ := renamed occupied
    rwa [same]
  · rwa [kept occupied]

/-- What holds of a name and of all its variants holds of the one that the search answers. -/
theorem firstFree_of_variants {motive : String → Prop} {wanted : String}
    (kept : motive wanted) (variant : ∀ suffix, motive (numbered wanted suffix))
    (taken : List String) : motive (firstFree wanted taken) := by
  -- The answer is the name, or one of its variants.
  obtain ⟨unchanged, renamed⟩ := firstFree_isFirstFree wanted taken
  by_cases occupied : wanted ∈ taken
  · obtain ⟨suffix, _, same, _⟩ := renamed occupied
    rw [same]
    exact variant suffix
  · rw [unchanged occupied]
    exact kept

/-- The names given to a list of wanted names in order, each the first free one after those before
it. -/
def givenNames (taken : List String) : List String → List String
  | [] => []
  | wanted :: rest =>
    firstFree wanted taken :: givenNames (taken ++ [firstFree wanted taken]) rest

/-- Every wanted name is given one name. -/
@[simp] theorem length_givenNames (taken wanted : List String) :
    (givenNames taken wanted).length = wanted.length := by
  induction wanted generalizing taken with
  | nil => rfl
  | cons first rest ih => simp [givenNames, ih]

/-- Given names differ from each other and from the names that were taken before. -/
theorem nodup_append_givenNames {taken : List String} (distinct : taken.Nodup)
    (wanted : List String) : (taken ++ givenNames taken wanted).Nodup := by
  -- Each given name joins the taken ones, and it is none of them.
  induction wanted generalizing taken with
  | nil => simpa [givenNames] using distinct
  | cons first rest ih =>
    have extended : (taken ++ [firstFree first taken]).Nodup := by
      refine List.nodup_append.mpr ⟨distinct, by simp, fun name member other last => ?_⟩
      rw [List.mem_singleton.mp last]
      exact fun same => firstFree_not_mem first taken (same ▸ member)
    simpa [givenNames] using ih extended

/-- The name given at a position is the first free one after all names given before it. -/
theorem getElem?_givenNames (taken wanted : List String) (position : Nat) :
    (givenNames taken wanted)[position]? = wanted[position]?.map fun name =>
      firstFree name (taken ++ (givenNames taken wanted).take position) := by
  -- Moving on by one position moves one given name to the taken ones.
  induction wanted generalizing taken position with
  | nil => simp [givenNames]
  | cons first rest ih =>
    cases position with
    | zero => simp [givenNames]
    | succ position => simp [givenNames, ih]

end ContentClasses
