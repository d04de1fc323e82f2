/-! How much two texts resemble each other, for guesses at what was meant by a misspelled word. -/

namespace ContentClasses

/-- Pairs the positions of equal characters from front to back, no position twice and the two
positions of a pair no further apart than the reach. -/
def pairedWithin (reach : Nat) (right : List (Char × Nat)) :
    List (Char × Nat) → (taken : List Nat) → List (Nat × Nat)
  | [], _ => []
  | (c, here) :: rest, taken =>
    let partner := right.find? fun (d, there) =>
      d = c && here ≤ there + reach && there ≤ here + reach && !taken.contains there
    match partner with
    | some (_, there) => (here, there) :: pairedWithin reach right rest (there :: taken)
    | none => pairedWithin reach right rest taken

/-- The mean of three shares: of the one text that is paired, of the other text that is, and of the
pairs that stand in the same order in both. -/
def resemblance (left right : List Char) : Rat :=
  let reach := max left.length right.length / 2 - 1
  let pairs := pairedWithin reach right.zipIdx left.zipIdx []
  if pairs.isEmpty then 0
  else
    let leftPart := pairs.filterMap fun (here, _) => left[here]?
    let rightPart := (right.zipIdx.filter fun (_, there) => pairs.any (·.2 = there)).map (·.1)
    let displaced := ((leftPart.zip rightPart).filter fun (c, d) => c ≠ d).length / 2
    let count : Rat := pairs.length
    (count / left.length + count / right.length + (count - displaced) / count) / 3

/-- The first of the candidates that resemble a text most, if they resemble it enough. -/
def mostSimilar? {α : Type} (spell : α → String) (text : String) (candidates : List α) : Option α :=
  let graded := candidates.map fun candidate =>
    (candidate, resemblance text.toList (spell candidate).toList)
  let close := graded.filter fun (_, grade) => 7 / 10 < grade
  let better : Option (α × Rat) → α × Rat → Option (α × Rat)
    | none, next => some next
    | some best, next => if best.2 < next.2 then some next else some best
  (close.foldl better none).map (·.1)

end ContentClasses
