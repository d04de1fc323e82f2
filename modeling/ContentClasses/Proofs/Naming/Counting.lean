import ContentClasses.Proofs.Naming.Holders
import Mathlib

/-! The search for a free name as a loop without a budget, which counts on for as long as it meets
taken names. It ends because a finite list cannot hold a name and all of its numbered variants, and
it does so before a counter of 32 bits overflows unless almost as many names are taken as that can
count. -/

namespace ContentClasses

/-- How a search that counts can end. -/
inductive SearchEnd where
  | found (name : String)
  /-- The counter could not be moved on. -/
  | overflow

/-- A way of counting: which counters have no room to be moved on, what the others are moved on to,
and the numeral for a counter. -/
structure Counting (Counter : Type) where
  isFull : Counter → Bool
  next : Counter → Counter
  numeral : Counter → String

namespace Counting

/-- One turn of the search through the numbered variants of a name: its end, or the counter for the
next turn. -/
def turn {Counter : Type} (counting : Counting Counter) (base : String) (taken : String → Bool)
    (counter : Counter) : SearchEnd ⊕ Counter :=
  -- A counter is moved on before its numeral is used, so one without room is never tried.
  if counting.isFull counter then .inl .overflow
  else if taken (base ++ counting.numeral counter) then .inr (counting.next counter)
  else .inl (.found (base ++ counting.numeral counter))

/-- The search from a counter on, turn after turn, which has no value if it goes on for ever. -/
def search {Counter : Type} (counting : Counting Counter) (base : String)
    (taken : String → Bool) : Counter →. SearchEnd :=
  PFun.fix fun counter => Part.some (counting.turn base taken counter)

/-- The search for a free name: the wanted name itself, or else a variant from a counter on. -/
def findFree {Counter : Type} (counting : Counting Counter) (base : String)
    (taken : String → Bool) (start : Counter) : Part SearchEnd :=
  if taken base then counting.search base taken start else Part.some (.found base)

/-- Counting through all natural numbers. -/
def natural : Counting Nat where
  isFull _ := false
  next number := number + 1
  numeral := toString

/-- Counting in signed numbers of 32 bits. -/
def signed32 : Counting Int32 where
  isFull number := number == Int32.maxValue
  next number := number + 1
  numeral := toString

section

variable {Counter : Type} {counting : Counting Counter} {base : String} {taken : String → Bool}
  {counter : Counter}

/-- A taken variant makes the search go on. -/
theorem search_occupied (room : counting.isFull counter = false)
    (occupied : taken (base ++ counting.numeral counter) = true) :
    counting.search base taken counter = counting.search base taken (counting.next counter) := by
  refine PFun.fix_fwd_eq ?_
  simp [turn, room, occupied]

/-- A free variant ends the search. -/
theorem search_free (room : counting.isFull counter = false)
    (free : taken (base ++ counting.numeral counter) = false) :
    counting.search base taken counter =
      Part.some (.found (base ++ counting.numeral counter)) := by
  refine Part.eq_some_iff.mpr (PFun.fix_stop ?_)
  simp [turn, room, free]

/-- A counter without room ends the search, too. -/
theorem search_overflow (full : counting.isFull counter = true) :
    counting.search base taken counter = Part.some .overflow := by
  refine Part.eq_some_iff.mpr (PFun.fix_stop ?_)
  simp [turn, full]

end

/-- The counters for the numbers below a limit can be moved on to the next number, and they are
written as numbers are. -/
structure CountsTo {Counter : Type} (counting : Counting Counter) (counterOf : Nat → Counter)
    (limit : Nat) : Prop where
  room : ∀ number < limit, counting.isFull (counterOf number) = false
  next : ∀ number < limit, counting.next (counterOf number) = counterOf (number + 1)
  numeral : ∀ number < limit, counting.numeral (counterOf number) = toString number

/-- All natural numbers can be counted to. -/
theorem natural_countsTo (limit : Nat) : natural.CountsTo id limit :=
  ⟨fun _ _ => rfl, fun _ _ => rfl, fun _ _ => rfl⟩

/-- The largest signed number of 32 bits can be counted to. -/
theorem signed32_countsTo : signed32.CountsTo Int32.ofNat (2 ^ 31 - 1) := by
  refine ⟨fun number below => ?_, fun number _ => ?_, fun number below => ?_⟩
  · -- Only the largest number has no room.
    refine beq_false_of_ne fun same => ?_
    have largest := congrArg Int32.toInt same
    rw [Int32.toInt_ofNat_of_lt (by omega), Int32.toInt_maxValue] at largest
    omega
  · exact (Int32.ofNat_add number 1).symm
  · -- The numeral is that of an integer, which is not negative here.
    show toString (Int32.ofNat number).toInt = toString number
    rw [Int32.toInt_ofNat_of_lt (by omega)]
    rfl

namespace CountsTo

variable {Counter : Type} {counting : Counting Counter} {counterOf : Nat → Counter} {limit : Nat}

/-- A search passes over variants that are all taken. -/
theorem search_eq (counts : counting.CountsTo counterOf limit) {base : String}
    {taken : String → Bool} {start stop : Nat} (forward : start ≤ stop) (within : stop ≤ limit)
    (occupied : ∀ number, start ≤ number → number < stop → taken (numbered base number) = true) :
    counting.search base taken (counterOf start) = counting.search base taken (counterOf stop) := by
  -- The induction adds one more taken variant behind those that are passed over already.
  induction stop, forward using Nat.le_induction with
  | base => rfl
  | succ stop forward ih =>
    have below : stop < limit := by omega
    have before := ih (by omega) fun number lower upper => occupied number lower (by omega)
    have last : taken (base ++ counting.numeral (counterOf stop)) = true := by
      rw [counts.numeral stop below]
      exact occupied stop forward (by omega)
    rw [before, search_occupied (counts.room stop below) last, counts.next stop below]

/-- A search ends at the first free variant. -/
theorem search_found (counts : counting.CountsTo counterOf limit) {base : String}
    {taken : String → Bool} {start suffix : Nat} (forward : start ≤ suffix) (below : suffix < limit)
    (occupied : ∀ number, start ≤ number → number < suffix → taken (numbered base number) = true)
    (free : taken (numbered base suffix) = false) :
    counting.search base taken (counterOf start) = Part.some (.found (numbered base suffix)) := by
  -- The search reaches the suffix, since all before it are taken, and stops there.
  have numeral := counts.numeral suffix below
  rw [counts.search_eq forward (Nat.le_of_lt below) occupied,
    search_free (counts.room suffix below), numeral, numbered]
  rwa [numeral]

/-- Among finitely many taken names the search ends with the first free name, if two more numbers
than there are taken names can be counted to. -/
theorem findFree_eq (counts : counting.CountsTo counterOf limit) {base : String}
    {taken : List String} (few : taken.length + 1 < limit) :
    counting.findFree base taken.contains (counterOf 2) =
      Part.some (.found (firstFree base taken)) := by
  by_cases occupied : base ∈ taken
  · -- The least free suffix is one of the numbers that can be counted to.
    obtain ⟨suffix, -, answer, lower, upper, free, least⟩ := firstFree_of_mem occupied
    rw [answer, findFree, if_pos (by simpa using occupied)]
    exact counts.search_found lower (by omega)
      (fun number above below => by simpa using least number above below) (by simpa using free)
  · rw [firstFree_eq_self_iff.mpr occupied, findFree, if_neg (by simpa using occupied)]

end CountsTo

/-- Counting through all natural numbers, a turn ends the search or goes on to the next number. -/
theorem natural_turn {base : String} {taken : String → Bool} {number : Nat} :
    natural.turn base taken number =
      if taken (numbered base number) then .inr (number + 1)
      else .inl (.found (numbered base number)) :=
  rfl

/-- Counting through all natural numbers, a search ends exactly if a variant from its start on is
free. -/
theorem natural_search_dom_iff {base : String} {taken : String → Bool} {start : Nat} :
    (natural.search base taken start).Dom ↔
      ∃ suffix, start ≤ suffix ∧ taken (numbered base suffix) = false := by
  constructor
  · intro ended
    obtain ⟨ending, ended⟩ := Part.dom_iff_mem.mp ended
    -- The last turn has met a free variant, and each turn before it starts from a smaller number.
    refine PFun.fixInduction'
      (C := fun number => ∃ suffix, number ≤ suffix ∧ taken (numbered base suffix) = false) ended
      (fun number last => ?_) (fun number later _ moved ih => ?_)
    · rw [Part.mem_some_iff, natural_turn] at last
      split at last
      · cases last
      · rename_i free
        exact ⟨number, le_rfl, by simpa using free⟩
    · rw [Part.mem_some_iff, natural_turn] at moved
      split at moved
      · obtain ⟨suffix, forward, free⟩ := ih
        cases moved
        exact ⟨suffix, by omega, free⟩
      · cases moved
  · intro free
    -- The search passes over what is taken up to the least free variant.
    obtain ⟨forward, first⟩ := Nat.find_spec free
    have found := (natural_countsTo (Nat.find free + 1)).search_found forward (by omega)
      (fun number above below => by simpa [above] using Nat.find_min free below) first
    exact Part.dom_iff_mem.mpr ⟨_, Part.eq_some_iff.mp found⟩

/-- Counting in 32 bits, a search overflows if the name is taken with all of its variants below the
largest number. -/
theorem signed32_findFree_overflow {base : String} {taken : String → Bool}
    (wanted : taken base = true)
    (variants : ∀ number, 2 ≤ number → number < 2 ^ 31 - 1 → taken (numbered base number) = true) :
    signed32.findFree base taken 2 = Part.some .overflow := by
  rw [findFree, if_pos wanted]
  calc signed32.search base taken (Int32.ofNat 2)
    _ = signed32.search base taken (Int32.ofNat (2 ^ 31 - 1)) :=
        signed32_countsTo.search_eq (by decide) le_rfl variants
    _ = Part.some .overflow := search_overflow (by decide)

end Counting

/-- The search for a free name among finitely many taken ones ends with the first one. -/
structure EndsAtFirstFree (base : String) (taken : List String) : Prop where
  /-- Counting through all natural numbers, the search ends, and with the name that is answered. -/
  ends : Counting.natural.findFree base taken.contains 2 =
    Part.some (.found (firstFree base taken))
  /-- The name is not taken. -/
  free : firstFree base taken ∉ taken
  /-- The name is the wanted one exactly if that is not taken. -/
  kept_iff : firstFree base taken = base ↔ base ∉ taken
  /-- Otherwise a suffix is found, so that the taken name itself is never answered: the least suffix
  from two on that makes the name free, and larger than the number of taken names by one at most. -/
  renamed : base ∈ taken → ∃ suffix, freeSuffix? base taken taken.length 2 = some suffix ∧
    firstFree base taken = numbered base suffix ∧ 2 ≤ suffix ∧ suffix ≤ taken.length + 1 ∧
    numbered base suffix ∉ taken ∧
    ∀ smaller, 2 ≤ smaller → smaller < suffix → numbered base smaller ∈ taken
  /-- Counting in 32 bits, the search ends with the same name, so that it does not overflow. -/
  fits : taken.length < 2 ^ 31 - 2 →
    Counting.signed32.findFree base taken.contains 2 =
      Part.some (.found (firstFree base taken))

/-- Whatever finite list of names is taken, the search for a free name ends with the first one. -/
theorem search_endsAtFirstFree (base : String) (taken : List String) :
    EndsAtFirstFree base taken where
  ends := (Counting.natural_countsTo (taken.length + 2)).findFree_eq (by omega)
  free := firstFree_not_mem base taken
  kept_iff := firstFree_eq_self_iff
  renamed := firstFree_of_mem
  fits few := Counting.signed32_countsTo.findFree_eq (by omega)

/-- Repeated names, other numerals and gaps among the taken names do not mislead the search. -/
theorem search_endsAtFirstFree_gap :
    let taken := ["hero", "hero3", "hero32", "hero2", "hero", "hero5"]
    taken.length < 2 ^ 31 - 2 ∧ firstFree "hero" taken = "hero4" ∧
      Counting.natural.findFree "hero" taken.contains 2 = Part.some (.found "hero4") ∧
      Counting.signed32.findFree "hero" taken.contains 2 = Part.some (.found "hero4") := by
  intro taken
  have few : taken.length < 2 ^ 31 - 2 := by decide
  have answer : firstFree "hero" taken = "hero4" := by decide
  -- The names that mislead are in the list, and the general law covers them.
  have whole : EndsAtFirstFree "hero" taken := search_endsAtFirstFree "hero" taken
  refine ⟨few, answer, ?_, ?_⟩
  · rw [← answer]
    exact whole.ends
  · rw [← answer]
    exact whole.fits few

end ContentClasses
