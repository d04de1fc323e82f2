import ContentClasses.CommandLine.Arguments
import ContentClasses.Proofs.Steps
import Mathlib.Data.List.TakeWhile

/-! An option without value is in effect exactly if it is among the arguments by its long name. -/

namespace ContentClasses.CommandLine

/-- Only one option has a long name. -/
theorem Switch.ofName?_eq_some_iff {name : String} {switch : Switch} :
    ofName? name = some switch ↔ name = switch.name := by
  -- The search stops at the first option of the name, and each one is the first of its own.
  constructor
  · intro found
    have named := List.find?_some found
    simpa using (of_decide_eq_true named).symm
  · rintro rfl
    cases switch <;> rfl

/-- Options of one name are the same. -/
theorem Switch.eq_of_name {switch other : Switch} (same : switch.name = other.name) :
    switch = other :=
  Option.some.inj ((ofName?_eq_some_iff.mpr rfl).symm.trans (ofName?_eq_some_iff.mpr same))

/-- An option that is found by a letter has one. -/
theorem Switch.letter?_of_ofLetter? {letter : Char} {switch : Switch}
    (found : ofLetter? letter = some switch) : switch.letter? = some letter := by
  simpa using List.find?_some found

namespace Reading

variable {reading next : Reading} {switch flag : Switch} {argument : String}

/-- Whether only an option that takes a value waits for one. -/
def WaitsForValue (reading : Reading) : Prop :=
  ∀ waiting ∈ reading.waiting, waiting.1.value? ≠ none

/-- Adding an option adds it to those that were given before. -/
theorem accept_ok {value : String} (added : reading.accept switch value = .ok next) :
    next.waiting = reading.waiting ∧ next.switches = reading.switches ++ [switch] := by
  -- Help, version and both ways to refuse an option end the reading.
  unfold accept at added
  split at added
  · cases added
  · cases added
  · split at added
    · cases added
    · split at added
      · cases added
      · cases added
        simp [switches]

/-- Looking at the waiting option leaves none waiting, and adds no option that takes no value. -/
theorem settle_ok (waits : reading.WaitsForValue) (settled : reading.settle = .ok next)
    (flagged : flag.value? = none) :
    next.waiting = none ∧ (flag ∈ next.switches ↔ flag ∈ reading.switches) := by
  -- An option that waits is settled as one without value or with the value that it has got.
  unfold settle at settled
  split at settled
  · rename_i nothing
    cases settled
    exact ⟨nothing, .rfl⟩
  · cases settled
  · -- What was waiting takes a value, so it is another option.
    rename_i switch value waiting
    obtain ⟨gone, given⟩ := accept_ok settled
    have other : flag ≠ switch := by
      rintro rfl
      exact waits (flag, some value) (by simp [waiting]) flagged
    refine ⟨gone, ?_⟩
    rw [given]
    simp [switches, other]

/-- Looking at the waiting option and adding another one adds no third one that takes no value. -/
theorem settle_accept_ok {value : String} (waits : reading.WaitsForValue)
    (read : (do (← reading.settle).accept switch value) = .ok next) (flagged : flag.value? = none) :
    next.WaitsForValue ∧ (flag ∈ next.switches ↔ flag ∈ reading.switches ∨ flag = switch) := by
  -- What was waiting comes first and is another option, so only the new one is added.
  obtain ⟨after, settled, accepted⟩ := bind_eq_ok_iff.mp read
  obtain ⟨idle, same⟩ := settle_ok waits settled flagged
  obtain ⟨waiting, given⟩ := accept_ok accepted
  refine ⟨by simp [WaitsForValue, waiting, idle], ?_⟩
  rw [given, List.mem_append, same, List.mem_singleton]

/-- Reading an option adds it and no other one that takes no value. -/
theorem option_ok {attached : Option String} (waits : reading.WaitsForValue)
    (read : reading.option switch attached = .ok next) (flagged : flag.value? = none) :
    next.WaitsForValue ∧
      (flag ∈ next.switches ↔ flag ∈ reading.switches ∨ flag = switch ∧ attached = none) := by
  -- An option that takes a value is not the one in question.
  have other {word : String} (takes : switch.value? = some word) : flag ≠ switch := by
    rintro rfl
    simp [takes] at flagged
  unfold option at read
  split at read
  · rename_i takes
    obtain ⟨still, added⟩ := settle_accept_ok waits read flagged
    exact ⟨still, by simp [added, other takes]⟩
  · cases read
  · -- The option waits for the next argument and is not among those given yet.
    rename_i word takes
    obtain ⟨after, settled, waiting⟩ := bind_eq_ok_iff.mp read
    cases waiting
    refine ⟨by simp [WaitsForValue, takes], ?_⟩
    simpa [switches, other takes] using (settle_ok waits settled flagged).2
  · obtain ⟨still, added⟩ := settle_accept_ok waits read flagged
    exact ⟨still, by simp [added]⟩

/-- Reading a long option adds the one with the name that the argument spells. -/
theorem longOption_ok {text : List Char} (waits : reading.WaitsForValue)
    (read : reading.longOption text = .ok next) (flagged : flag.value? = none) :
    next.WaitsForValue ∧
      (flag ∈ next.switches ↔ flag ∈ reading.switches ∨ text = flag.name.toList) := by
  -- The text names an option up to an equality sign.
  unfold longOption at read
  simp only at read
  split at read
  · rename_i switch found
    obtain ⟨still, added⟩ := option_ok waits read flagged
    refine ⟨still, added.trans (or_congr_right ?_)⟩
    -- The name ends at an equality sign or with the argument, and names have no such sign.
    have named := Switch.ofName?_eq_some_iff.mp found
    have unsigned : '=' ∉ flag.name.toList := by cases flag <;> decide
    have plain : ∀ c ∈ flag.name.toList, decide (c ≠ '=') = true := by
      intro c member
      rw [decide_eq_true_eq]
      rintro rfl
      exact unsigned member
    have whole := List.takeWhile_append_dropWhile (p := fun c => decide (c ≠ '=')) (l := text)
    constructor
    · -- A name that is followed by nothing is the whole text.
      rintro ⟨rfl, nothing⟩
      split at nothing
      · rename_i rest
        rw [rest, List.append_nil] at whole
        rw [← named, String.toList_ofList, whole]
      · cases nothing
    · rintro rfl
      rw [List.takeWhile_eq_self_iff.mpr plain, String.ofList_toList] at named
      rw [List.dropWhile_eq_nil_iff.mpr plain]
      exact ⟨Switch.eq_of_name named, rfl⟩
  · cases read

/-- Reading letters adds no option without letter. -/
theorem letters_ok {text : List Char} (waits : reading.WaitsForValue)
    (read : reading.letters text = .ok next) (flagged : flag.value? = none)
    (long : flag.letter? = none) :
    next.WaitsForValue ∧ (flag ∈ next.switches ↔ flag ∈ reading.switches) := by
  -- Each letter is read as its option, up to the first one that takes the rest as its value.
  induction text generalizing reading with
  | nil =>
    cases read
    exact ⟨waits, .rfl⟩
  | cons letter rest ih =>
    -- A letter that stands for no option is refused.
    unfold letters at read
    split at read
    · cases read
    · rename_i switch found
      -- An option without letter is not meant by one.
      have other : flag ≠ switch := by
        rintro rfl
        have short := Switch.letter?_of_ofLetter? found
        simp [long] at short
      split at read
      · -- The others are read after an option that takes no value.
        obtain ⟨after, first, later⟩ := bind_eq_ok_iff.mp read
        obtain ⟨still, added⟩ := option_ok waits first flagged
        obtain ⟨last, same⟩ := ih still later
        exact ⟨last, same.trans (by simp [added, other])⟩
      · obtain ⟨last, added⟩ := option_ok waits read flagged
        exact ⟨last, by simp [added, other]⟩

/-- A word is no option. -/
theorem word_ok (waits : reading.WaitsForValue) (read : reading.word argument = .ok next) :
    next.WaitsForValue ∧ next.switches = reading.switches := by
  -- It becomes the value of the waiting option, or it is refused.
  unfold word at read
  split at read
  · rename_i switch waiting
    cases read
    exact ⟨by simpa [WaitsForValue, waiting] using waits, rfl⟩
  · cases read

/-- After all arguments were read, an option without value and letter was given exactly if it was
given before or is among the arguments by its long name. -/
theorem arguments_ok {arguments : List String} (waits : reading.WaitsForValue)
    (read : reading.arguments arguments = .ok next) (flagged : flag.value? = none)
    (long : flag.letter? = none) :
    flag ∈ next.switches ↔ flag ∈ reading.switches ∨ "--" ++ flag.name ∈ arguments := by
  -- Only an argument with two dashes can add the option, and it adds the one that it spells.
  induction arguments generalizing reading with
  | nil =>
    rw [Reading.arguments] at read
    simpa using (settle_ok waits read flagged).2
  | cons argument rest ih =>
    have filled : flag.name.toList ≠ [] := by cases flag <;> decide
    have spelled : "--" ++ flag.name = argument ↔
        argument.toList = '-' :: '-' :: flag.name.toList := by
      rw [eq_comm, ← String.toList_inj]
      simp
    rw [List.mem_cons, spelled]
    unfold Reading.arguments at read
    split at read
    · -- A pair of dashes at the end is no option.
      rename_i dashes
      rw [dashes]
      simpa [filled.symm] using (settle_ok waits read flagged).2
    · cases read
    · rename_i text letters _ _
      obtain ⟨after, first, later⟩ := bind_eq_ok_iff.mp read
      obtain ⟨still, added⟩ := longOption_ok waits first flagged
      rw [ih still later, added, letters]
      simp [or_assoc]
    · -- Letters follow one dash, and the name of the option would follow two.
      rename_i letter more single letters _ _
      have differs : argument.toList ≠ '-' :: '-' :: flag.name.toList := by
        rw [letters]
        rintro same
        exact single (List.cons.inj (List.cons.inj same).2).1
      obtain ⟨after, first, later⟩ := bind_eq_ok_iff.mp read
      obtain ⟨still, same⟩ := letters_ok waits first flagged long
      rw [ih still later, same]
      simp [differs]
    · -- A word does not begin with two dashes either.
      rename_i undashed _ _ _
      have differs : argument.toList ≠ '-' :: '-' :: flag.name.toList := undashed _
      obtain ⟨after, first, later⟩ := bind_eq_ok_iff.mp read
      obtain ⟨still, same⟩ := word_ok waits first
      rw [ih still later, same]
      simp [differs]

end Reading

variable {arguments : List String} {options : Options}

/-- An option without value and letter is in effect exactly if it is among the arguments. -/
theorem mem_switches_iff {flag : Switch} {final : Reading}
    (read : ({} : Reading).arguments arguments = .ok final) (flagged : flag.value? = none)
    (long : flag.letter? = none) :
    flag ∈ final.switches ↔ "--" ++ flag.name ∈ arguments := by
  have added := Reading.arguments_ok (by simp [Reading.WaitsForValue]) read flagged long
  simpa [Reading.switches] using added

/-- A run writes nothing, prints the settings, and shows the class specifications, exactly if an
argument says so. -/
theorem readArguments_flags (read : readArguments arguments = .ok options) :
    (options.dryRun = true ↔ "--dry-run" ∈ arguments) ∧
      (options.printConfig = true ↔ "--print-config" ∈ arguments) ∧
      (options.dumpSpecs = true ↔ "--dump-specs" ∈ arguments) := by
  -- The flags are read off the switches that were given in the end.
  unfold readArguments at read
  cases final : ({} : Reading).arguments arguments with
  | error interruption => simp [final] at read
  | ok reading =>
    simp only [final, map_ok, Except.ok.injEq] at read
    subst read
    exact ⟨List.contains_iff_mem.trans (mem_switches_iff final rfl rfl),
      List.contains_iff_mem.trans (mem_switches_iff final rfl rfl),
      List.contains_iff_mem.trans (mem_switches_iff final rfl rfl)⟩

end ContentClasses.CommandLine
