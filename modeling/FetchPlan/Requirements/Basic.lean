import FetchPlan.Text.Pieces

/-!
Requirements files of pip, restricted to requirements that are pinned: to one version, to a
reference of a repository, or to a URL.

Extras and markers are kept as they are written. Whether a marker applies, or which extras there
are, is not decided here.
-/
namespace FetchPlan

inductive Pin where
  | version (version : String)
  /-- A repository; the URL goes without the lead `git+`. -/
  | repository (url reference : String)
  | url (url : String)
  deriving DecidableEq, Repr

/-- One requirement. Extras and marker are kept, but neither expanded nor evaluated. -/
structure Requirement where
  name : String
  extras : List String
  marker : Option String
  hashes : List String
  pin : Pin
  deriving DecidableEq, Repr

structure Requirements where
  indexUrl : Option String
  requireHashes : Bool
  requirements : List Requirement
  deriving DecidableEq, Repr

namespace Requirements

def empty : Requirements := ⟨none, false, []⟩

end Requirements
end FetchPlan
