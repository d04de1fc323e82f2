/-! Codenames, their words, and the snake-case form in which nothing of a codename is lost. -/

namespace ContentClasses

/-- The words of a codename: its pieces between underscores, without the empty ones. -/
def codenameWords (codename : List Char) : List (List Char) :=
  -- Doubled, leading and trailing underscores leave only empty pieces behind.
  (codename.splitOn '_').filter fun word => !word.isEmpty

/-- The characters a snake-case word is made of. -/
def isSnakeChar (c : Char) : Bool :=
  ('a' ≤ c && c ≤ 'z') || ('0' ≤ c && c ≤ '9')

/-- Whether the text finishes a snake-case codename, given whether a word has already begun. -/
def finishesSnakeCase (inWord : Bool) : List Char → Bool
  -- Only a word that has begun may end or be followed by an underscore.
  | [] => inWord
  | c :: rest =>
    if c = '_' then inWord && finishesSnakeCase false rest
    else isSnakeChar c && finishesSnakeCase true rest

/-- Whether a codename is one or more lower-case alphanumeric words joined by single underscores. -/
def isSnakeCase (codename : String) : Bool :=
  finishesSnakeCase false codename.toList

end ContentClasses
