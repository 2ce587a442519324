import FetchPlan.Text.Pieces

/-!
Options in a requirements file: those on a line of their own, which apply to the whole file, and the
hashes of a requirement.
-/
namespace FetchPlan.Requirements

/-- Options that take the next word as their value. -/
def takesValue (option : List Char) : Bool :=
  option == "-i".toList || option == "--index-url".toList || option == "--trusted-host".toList ||
    option == "--hash".toList

/-- An option with its value, where it has one. -/
abbrev Choice := List Char × Option (List Char)

/-- The options among words: `option=value`, `option value`, or an option alone. -/
def choices : List (List Char) → List Choice
  | [] => []
  | [w] =>
    match Text.cut (· == '=') w with
    | some (option, value) => [(option, some value)]
    | none => [(w, none)]
  | w :: v :: r =>
    match Text.cut (· == '=') w with
    | some (option, value) => (option, some value) :: choices (v :: r)
    | none => if takesValue w then (w, some v) :: choices r else (w, none) :: choices (v :: r)

inductive Setting where
  | indexUrl (url : String)
  | requireHashes
  | trustedHost
  deriving DecidableEq, Repr

def setting? (c : Choice) : Option Setting :=
  let (option, value) := c
  match value with
  | some v =>
    if option = "-i".toList ∨ option = "--index-url".toList then
      if v = [] then none else some (.indexUrl (String.ofList v))
    else if option = "--trusted-host".toList then some .trustedHost
    else none
  | none => if option = "--require-hashes".toList then some .requireHashes else none

def hash? (c : Choice) : Option String :=
  match c with
  | (option, some v) =>
    if option = "--hash".toList ∧ v.contains ':' then some (String.ofList v) else none
  | (_, none) => none

end FetchPlan.Requirements
