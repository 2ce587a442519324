import FetchPlan.Purl

/-!
Components: the records of a bill of materials. A component is a package URL's text with the flags
that the URL has no place for; the flags form an ascending list without repetition.

Two components may agree in their package URL and differ in the rest. `Component.order` tells any
two apart, by the package URL first, so that sorting leaves nothing open.
-/
namespace FetchPlan

structure Property where
  name : String
  value : String
  deriving DecidableEq, Repr

/-- Flags are ordered by name, then by value. -/
instance : Ord Property := ⟨compareLex (compareOn Property.name) (compareOn Property.value)⟩

/-- One entry of a bill of materials. -/
structure Component where
  name : String
  version : Option String
  purl : String
  properties : List Property
  deriving DecidableEq, Repr

namespace Component

/-- The order of components: by package URL, then by what else tells them apart. -/
def order : Component → Component → Ordering :=
  compareLex (compareOn purl) <| compareLex (compareOn name) <|
    compareLex (compareOn version) (compareOn properties)

def ofPurl (p : PackageUrl) : Component := ⟨p.name, p.version, p.render, []⟩

/-- Adds a flag to an ascending list, unless it is there. -/
def insertProperty (q : Property) : List Property → List Property
  | [] => [q]
  | p :: r =>
    match compare q p with
    | .lt => q :: p :: r
    | .eq => p :: r
    | .gt => p :: insertProperty q r

def withProperty (c : Component) (name value : String) : Component :=
  { c with properties := insertProperty ⟨name, value⟩ c.properties }

end Component
end FetchPlan
