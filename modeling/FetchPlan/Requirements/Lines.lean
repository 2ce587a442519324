import FetchPlan.Text.Pieces

/-!
Lines of a requirements file. A backslash at the end of a line joins it with the next one, and
only then are comments taken off.

The steps come in this order: the text is split at line feeds, each line loses one carriage return
at its end, lines are joined where a backslash ends one, and then each line loses its comment and
the blanks at both ends.
-/
namespace FetchPlan.Requirements

/-- The line without the backslash that continues it, if it has one. -/
def continued? (line : List Char) : Option (List Char) :=
  if line.getLast? = some '\\' then some line.dropLast else none

/-- Joins continued lines; each backslash becomes a space. `pending` is what the lines so far of a
continued line give. -/
def joinLines (pending : List Char) : List (List Char) → List (List Char)
  | [] => if pending = [] then [] else [pending]
  | line :: r =>
    match continued? line with
    | some head => joinLines (pending ++ head ++ [' ']) r
    | none => (pending ++ line) :: joinLines [] r

def logicalLines (text : List Char) : List (List Char) := joinLines [] (Text.lines text)

/-- The line up to the first number sign after a blank of ASCII; `blank` says whether such a blank
has come just before. -/
def untilComment (blank : Bool) : List Char → List Char
  | [] => []
  | c :: r => if c = '#' ∧ blank then [] else c :: untilComment (Text.isAsciiBlank c) r

/-- The line without its comment. A number sign at the start of a line, or after a blank, begins
one; the fragment of a URL does not. -/
def withoutComment (line : List Char) : List Char :=
  if (Text.trimStart line).head? = some '#' then [] else untilComment false line

end FetchPlan.Requirements
