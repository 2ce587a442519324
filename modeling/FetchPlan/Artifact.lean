import FetchPlan.Component
import FetchPlan.Provenance

/-!
Artifacts: what has to be fetched for a package, from where and to where; and the component that
each artifact has in the bill of materials.

An artifact has one of three origins. A release is named by an index, a name and a version; a
repository by its URL and a commit, tag or branch; a download by its URL alone. What an origin
says goes into the qualifiers of a package URL (`Component.purlOfOrigin`); that a checksum is
missing, or that only a build needs the artifact, has no place there and becomes a property.
Components with one package URL count as one within a package, and the first of them stands for
all (`Component.firstOfEach`).
-/
namespace FetchPlan

inductive Distribution where
  | sourceArchive | prebuilt
  deriving DecidableEq, Repr

structure Release where
  indexUrl : String
  distribution : Distribution
  version : String
  checksum : Option String
  deriving DecidableEq, Repr

/-- A commit, tag or branch of a repository. The namespace is every part of the repository's path
but the last, which is its name. -/
structure Repository where
  url : String
  host : String
  namespacePath : String
  name : String
  reference : String
  deriving DecidableEq, Repr

/-- A file at a URL. `urlWithHash` ends in a fragment `algorithm=digest` when a hash is declared. -/
structure Download where
  url : String
  urlWithHash : String
  deriving DecidableEq, Repr

inductive Origin where
  | release (r : Release)
  | repository (r : Repository)
  | download (d : Download)
  deriving DecidableEq, Repr

structure Artifact where
  package : String
  /-- The destination under the output directory. -/
  path : String
  /-- The file, relative to the source directory, that asks for the artifact. -/
  requirementFile : String
  /-- Whether that file gives no checksum for it. -/
  missingChecksum : Bool
  buildDependency : Bool
  origin : Origin
  deriving DecidableEq, Repr

namespace Repository

/-- A text without any number of `.git` at its end. -/
def dropGitEndings (s : List Char) : List Char := (dropLeading s.reverse).reverse
where
  dropLeading : List Char → List Char
    | 't' :: 'i' :: 'g' :: '.' :: r => dropLeading r
    | s => s

def parse (url reference : String) : Except Error Repository :=
  match Remote.host? url with
  | none => .error (.unexpectedFormat url "missing host")
  | some host =>
    let segments := Remote.segments url
    match segments.getLast? with
    | none => .error (.unexpectedFormat url "missing repository path")
    | some last =>
      if reference = "" then .error (.unexpectedFormat url "missing git reference")
      else .ok {
        url := url
        host := host
        namespacePath := "/".intercalate segments.dropLast
        name := String.ofList (dropGitEndings last.toList)
        reference := reference }

def version (r : Repository) : String := "git+" ++ r.url ++ "@" ++ r.reference

end Repository

namespace Artifact

def kindName (a : Artifact) : String :=
  match a.origin with
  | .release _ => "index"
  | .repository _ => "vcs"
  | .download _ => "url"

def version (a : Artifact) : String :=
  match a.origin with
  | .release r => r.version
  | .repository r => r.version
  | .download d => d.urlWithHash

end Artifact

def defaultPipIndex : String := "https://pypi.org/simple"

/-- Whether an index is the common registry of cargo, or a copy of it that carries its name. -/
def isDefaultCargoRegistry (indexUrl : String) : Bool :=
  Text.contains "crates.io".toList (indexUrl.toList.map Char.toLower)

/-- Whether an index is the default one of pip, with or without slashes at its end. -/
def isDefaultPipIndex (indexUrl : String) : Bool :=
  (indexUrl.toList.reverse.dropWhile (· == '/')).reverse == defaultPipIndex.toList

namespace Component

/-- The hash at the end of a URL, as the value of a `checksum` qualifier. -/
def checksumOfFragment (urlWithHash : String) : Option String := do
  let (_, fragment) ← Text.cut (· == '#') urlWithHash.toList
  let (algorithm, digest) ← Text.cut (· == '=') fragment
  pure (String.ofList (algorithm ++ ':' :: digest))

/-- The package URL with the facts of an artifact's origin. A repository has a version only in
cargo, which locks one. -/
def purlOfOrigin (ecosystem : Ecosystem) (purl : PackageUrl) (lockedVersion : Option String) :
    Origin → PackageUrl
  | .release r =>
    let purl := purl.withVersion (some r.version)
    match ecosystem with
    | .cargo =>
      let purl := purl.withQualifier "checksum" (r.checksum.getD "")
      if isDefaultCargoRegistry r.indexUrl then purl
      else purl.withQualifier "repository_url" r.indexUrl
    | .pip =>
      if isDefaultPipIndex r.indexUrl then purl else purl.withQualifier "repository_url" r.indexUrl
  | .repository r =>
    let purl := purl.withQualifier "vcs_url" r.version
    match ecosystem with
    | .cargo => purl.withVersion lockedVersion
    | .pip => purl
  | .download d =>
    (purl.withQualifier "download_url" d.url).withQualifier "checksum"
      ((checksumOfFragment d.urlWithHash).getD "")

def missingHashProperty : String := "prefetch:missing_hash:in_file"

def buildDependencyProperty : String := "prefetch:pip:package:build-dependency"

def ofArtifact (ecosystem : Ecosystem) (a : Artifact) (lockedVersion : Option String) : Component :=
  let purl := PackageUrl.ofName ecosystem.purlType a.package
  let c := ofPurl (purlOfOrigin ecosystem purl lockedVersion a.origin)
  let c := if a.missingChecksum then c.withProperty missingHashProperty a.requirementFile else c
  if a.buildDependency ∧ ecosystem = .pip then c.withProperty buildDependencyProperty "true" else c

/-- The component of a package that stands in the source tree itself. -/
def ofLocal (ecosystem : Ecosystem) (name : String) (version : Option String)
    (checkout : Option Checkout) : Component :=
  let purl := (PackageUrl.ofName ecosystem.purlType name).withVersion version
  ofPurl (match checkout with
    | some c => purl.withQualifier "vcs_url" c.vcsUrl
    | none => purl)

/-- The components without those whose package URL `seen` or an earlier component has. -/
def firstOfEachFrom (seen : List String) : List Component → List Component
  | [] => []
  | c :: r =>
    if c.purl ∈ seen then firstOfEachFrom seen r
    else c :: firstOfEachFrom (c.purl :: seen) r

/-- The first component of each package URL, in order. -/
def firstOfEach (cs : List Component) : List Component := firstOfEachFrom [] cs

end Component
end FetchPlan
