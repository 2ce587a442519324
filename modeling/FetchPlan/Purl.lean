import FetchPlan.Text.Pieces
import FetchPlan.Text.Percent

/-!
Package URLs. A package URL has a type, a name, an optional version and qualifiers; its text is
canonical: qualifiers stand in the order of their keys, an empty version or qualifier value is
never stored, and every character outside a small class is percent-encoded.

The reader `parse?` reads canonical texts only. It shows that nothing of a package URL is lost in
its text.
-/
namespace FetchPlan

/-- A package URL. The qualifiers are in strictly ascending order of their keys. -/
structure PackageUrl where
  type : String
  name : String
  version : Option String
  qualifiers : List (String × String)
  deriving DecidableEq, Repr

namespace PackageUrl

/-- The name under which a package of this type is known: a `pypi` name is in lower case and has
hyphens for underscores. -/
def normalName (type name : String) : String :=
  if type = "pypi" then
    String.ofList (name.toList.map fun c => if c = '_' then '-' else c.toLower)
  else name

def ofName (type name : String) : PackageUrl := ⟨type, normalName type name, none, []⟩

/-- Sets the version; an empty one counts as none. -/
def withVersion (p : PackageUrl) (version : Option String) : PackageUrl :=
  { p with version := version.filter (· ≠ "") }

/-- Puts a value under a key of an ascending list. -/
def insertSorted (key value : String) : List (String × String) → List (String × String)
  | [] => [(key, value)]
  | (k, v) :: r =>
    if key < k then (key, value) :: (k, v) :: r
    else if key = k then (key, value) :: r
    else (k, v) :: insertSorted key value r

/-- Sets a qualifier; an empty value changes nothing. -/
def withQualifier (p : PackageUrl) (key value : String) : PackageUrl :=
  if value = "" then p else { p with qualifiers := insertSorted key value p.qualifiers }

def qualifier (p : PackageUrl) (key : String) : Option String := p.qualifiers.lookup key

/-- The characters that a name shows as themselves. -/
def plainInName (c : Char) : Bool :=
  c.isAlphanum || c == '-' || c == '.' || c == '_' || c == '~'

/-- The characters that a version or a qualifier value shows as themselves. -/
def plainInValue (c : Char) : Bool := plainInName c || c == ':' || c == '/'

/-- The qualifiers as they stand after the version; `mark` comes before the first. -/
def renderQualifiers (mark : Char) : List (String × String) → List Char
  | [] => []
  | (k, v) :: r =>
    mark :: (k.toList ++ '=' :: Text.percentEncode plainInValue v.toList) ++ renderQualifiers '&' r

def renderChars (p : PackageUrl) : List Char :=
  "pkg:".toList ++ p.type.toList ++ '/' :: Text.percentEncode plainInName p.name.toList ++
    (match p.version with
    | some v => '@' :: Text.percentEncode plainInValue v.toList
    | none => []) ++
    renderQualifiers '?' p.qualifiers

/-- The canonical text of a package URL. -/
def render (p : PackageUrl) : String := String.ofList p.renderChars

def decodePart? (s : List Char) :
    Option String := (Text.decode? (Text.percentDecode s)).map String.ofList

def qualifier? (s : List Char) : Option (String × String) := do
  let (key, value) ← Text.cut (· == '=') s
  pure (String.ofList key, ← decodePart? value)

def qualifiers? (s : List Char) : Option (List (String × String)) :=
  (Text.fields (· == '&') s).mapM qualifier?

/-- Reads the name and what follows it. -/
def parseRest? (type : String) (s : List Char) : Option PackageUrl := do
  let (head, qualifiers) ← match Text.cut (· == '?') s with
    | some (head, qs) => (qualifiers? qs).map fun qs => (head, qs)
    | none => some (s, [])
  match Text.cut (· == '@') head with
  | some (name, version) =>
    return ⟨type, ← decodePart? name, some (← decodePart? version), qualifiers⟩
  | none => return ⟨type, ← decodePart? head, none, qualifiers⟩

def parse? (s : String) : Option PackageUrl := do
  let s ← Text.after? "pkg:" s.toList
  let (type, s) ← Text.cut (· == '/') s
  parseRest? (String.ofList type) s

end PackageUrl
end FetchPlan
