import FetchPlan.Text.Pieces

/-!
Paths: the text of a path, and the names it is made of. An absolute place in a file tree is the
list of names that lead to it from the root, none of which is empty, a point or two points.
-/
namespace FetchPlan.Files

/-- A place in a file tree: the names from the root on. -/
abbrev Place := List String

def Place.text (p : Place) : String := "/" ++ "/".intercalate p

def isAbsolute (path : String) : Bool := path.toList.head? == some '/'

/-- The parts of a path between slashes, empty ones included. -/
def parts (path : String) : List String := (Text.fields (· == '/') path.toList).map String.ofList

/-- Whether a part stands for no step of its own. -/
def isStill (part : String) : Bool := part == "" || part == "."

/-- The path that `path` means when it is read from `base`; an absolute path replaces the base. -/
def joinText (base path : String) : String :=
  if isAbsolute path then path
  else if base = "" ∨ base.toList.getLast? = some '/' then base ++ path
  else base ++ "/" ++ path

/-- One step without regard to links: two points lead back, a point and nothing stay. -/
def stepPlainly (p : Place) (part : String) : Place :=
  if isStill part then p else if part = ".." then p.dropLast else p ++ [part]

/-- The place that a path denotes from a base, without regard to links. -/
def placePlainly (base : Place) (path : String) : Place :=
  (parts path).foldl stepPlainly (if isAbsolute path then [] else base)

/-- The texts of the paths that end at a step of a path, the shortest first. A point is a step only
where a relative path begins with it. -/
def stepsOf (before : List String) : List String → List String
  | [] => []
  | part :: r =>
    let here := before ++ [part]
    if part = "" ∨ (part = "." ∧ before ≠ []) then stepsOf here r
    else "/".intercalate here :: stepsOf here r

/-- A path and the paths of the directories above it, the nearest first. -/
def ancestors (path : String) : List String :=
  let all :=
    if isAbsolute path then "/" :: stepsOf [""] ((parts path).drop 1)
    else "" :: stepsOf [] (parts path)
  path :: all.dropLast.reverse

def parent? (path : String) : Option String := (ancestors path)[1]?

end FetchPlan.Files
