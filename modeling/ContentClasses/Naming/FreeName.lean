/-! Names that are not taken yet: the wanted name itself, or its first free numbered variant. -/

namespace ContentClasses

/-- The variant of a name that ends in a number. -/
def numbered (base : String) (suffix : Nat) : String := base ++ toString suffix

/-- The least free suffix among `budget` many from `start` on. -/
def freeSuffix? (base : String) (taken : List String) : (budget start : Nat) → Option Nat
  | 0, _ => none
  | budget + 1, start =>
    if taken.contains (numbered base start) then freeSuffix? base taken budget (start + 1)
    else some start

/-- The first name that is not taken among `base`, `base2`, `base3` and so on. -/
def firstFree (base : String) (taken : List String) : String :=
  if taken.contains base then
    -- One taken name is the base, so as many suffixes as taken names include a free one.
    match freeSuffix? base taken taken.length 2 with
    | some suffix => numbered base suffix
    | none => base
  else base

end ContentClasses
