import FetchPlan.Text.Pieces

/-!
Requests: which packages of a source tree to plan for, each with its ecosystem, its directory and,
for pip, the requirements files to read in place of the usual ones.

A package is asked for as `TYPE` or `TYPE:PATH`. The words for ecosystems and modes are few and
are written in one way; any other word is refused with what it was taken for (`UnknownWord`).
-/
namespace FetchPlan

inductive Ecosystem where
  | cargo | pip
  deriving DecidableEq, Repr

/-- The policy for source trees outside version control. -/
inductive Mode where
  /-- A source tree outside version control is refused. -/
  | strict
  /-- It only goes without provenance. -/
  | permissive
  deriving DecidableEq, Repr

/-- A word of a request or a setting that means nothing. -/
inductive UnknownWord where
  | ecosystem (word : String)
  | mode (word : String)
  deriving DecidableEq, Repr

def UnknownWord.message : UnknownWord → String
  | .ecosystem word => "unknown package type: " ++ word ++ " (expected cargo|pip)"
  | .mode word => "unknown mode: " ++ word ++ " (expected 'strict' or 'permissive')"

namespace Ecosystem

def name : Ecosystem → String
  | .cargo => "cargo"
  | .pip => "pip"

def purlType : Ecosystem → String
  | .cargo => "cargo"
  | .pip => "pypi"

def ofName (word : String) : Except UnknownWord Ecosystem :=
  if word = "cargo" then .ok .cargo
  else if word = "pip" then .ok .pip
  else .error (.ecosystem word)

theorem ofName_name (e : Ecosystem) : ofName e.name = .ok e := by cases e <;> rfl

end Ecosystem

namespace Mode

def name : Mode → String
  | .strict => "strict"
  | .permissive => "permissive"

def ofName (word : String) : Except UnknownWord Mode :=
  if word = "strict" then .ok .strict
  else if word = "permissive" then .ok .permissive
  else .error (.mode word)

theorem ofName_name (m : Mode) : ofName m.name = .ok m := by cases m <;> rfl

instance : Inhabited Mode := ⟨.strict⟩

end Mode

structure PackageRequest where
  ecosystem : Ecosystem
  /-- The directory of the package, relative to the source directory. -/
  path : String
  /-- The requirements files to read, where a list is given. -/
  requirementFiles : Option (List String)
  /-- The requirements files of the build, where a list is given. -/
  buildRequirementFiles : Option (List String)
  deriving DecidableEq, Repr

namespace PackageRequest

def simple (ecosystem : Ecosystem) (path : String) : PackageRequest := ⟨ecosystem, path, none, none⟩

/-- Reads `TYPE` or `TYPE:PATH`; without a path the source directory itself is meant. -/
def ofText (text : String) : Except UnknownWord PackageRequest := do
  let (type, path) := (Text.cut (· == ':') text.toList).getD (text.toList, [])
  let ecosystem ← Ecosystem.ofName (String.ofList type)
  pure (simple ecosystem (if path = [] then "." else String.ofList path))

end PackageRequest
end FetchPlan
