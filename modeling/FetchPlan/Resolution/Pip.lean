import FetchPlan.Requirements.Reader
import FetchPlan.Resolution.Basic

/-!
Resolving a pip package: its project file names it, if there is one, and its requirements files
list what it needs, first to run and then to build. Files that are named in the request have to be
there; the usual ones need not.

A release goes to an archive by name and version, a repository to one by host, namespace and name,
and a download to the last segment of its URL. The hash at the end of a URL, where it is one, goes
before the hash options beside it (`Download.ofDeclared`). In a file that asks for hashes an
artifact without one is refused.
-/
namespace FetchPlan

namespace Download

/-- The algorithms that a hash at the end of a URL may be of. -/
def hashAlgorithms : List String := ["md5", "sha1", "sha224", "sha256", "sha384", "sha512"]

/-- Whether the text after the number sign of a URL is a hash. -/
def isHash (fragment : List Char) : Bool :=
  match Text.cut (· == '=') fragment with
  | some (algorithm, digest) => digest ≠ [] && String.ofList algorithm ∈ hashAlgorithms
  | none => false

/-- A hash option as the end of a URL: its first colon becomes an equals sign. -/
def ofHashOption (hash : String) : List Char :=
  match Text.cut (· == ':') hash.toList with
  | some (algorithm, digest) => algorithm ++ '=' :: digest
  | none => hash.toList

/-- The download that a URL declares. A hash at its end wins over a hash option. -/
def ofDeclared (declared : String) (firstHash : Option String) : Download :=
  let (url, fragment) := match Text.cut (· == '#') declared.toList with
    | some (url, fragment) => (url, some fragment)
    | none => (declared.toList, none)
  let hash := (fragment.filter isHash).or (firstHash.map ofHashOption)
  let urlWithHash := match hash with
    | some hash => url ++ '#' :: hash
    | none => url
  ⟨String.ofList url, String.ofList urlWithHash⟩

def hasHash (d : Download) : Bool := d.urlWithHash ≠ d.url

end Download

namespace Pip

def depsDir : String := "deps/pip"

def usualFile : String := "requirements.txt"

def usualBuildFile : String := "requirements-build.txt"

structure Listing where
  path : RootedPath
  /-- Whether it lists what the build needs. -/
  forBuild : Bool
  /-- Whether it has to be there. -/
  required : Bool
  deriving DecidableEq, Repr

/-- The files of one list of a request, or the usual one. -/
def listingsOf (s : Surroundings) (directory : RootedPath) (forBuild : Bool) (usual : String) :
    Option (List String) → Except Error (List Listing)
  | some files => files.mapM fun file => return ⟨← directory.join s.tree file, forBuild, true⟩
  | none => return [⟨← directory.join s.tree usual, forBuild, false⟩]

def listings (s : Surroundings) (directory : RootedPath) (request : PackageRequest) :
    Except Error (List Listing) := do
  let first ← listingsOf s directory false usualFile request.requirementFiles
  let second ← listingsOf s directory true usualBuildFile request.buildRequirementFiles
  pure (first ++ second)

def releaseArchive (name version : String) : String := name ++ "-" ++ version ++ ".tar.gz"

/-- The place of the archive of a repository, by host, namespace and name. -/
def repositoryArchive (r : Repository) : String :=
  let archive := r.name ++ "-external-gitcommit-" ++ r.reference ++ ".tar.gz"
  "/".intercalate ([r.host, r.namespacePath, r.name, archive].filter (· ≠ ""))

/-- Where the artifact of a requirement goes, below the directory of downloads; where it comes
from; and whether a hash is declared for it. -/
def planOf (indexUrl what : String) (r : Requirement) : Except Error (String × Origin × Bool) :=
  match r.pin with
  | .version version =>
    .ok (releaseArchive r.name version,
      .release ⟨indexUrl, .sourceArchive, version, r.hashes.head?⟩, !r.hashes.isEmpty)
  | .repository url reference => do
    let repository ← Repository.parse url reference
    pure (repositoryArchive repository, .repository repository, !r.hashes.isEmpty)
  | .url declared =>
    let download := Download.ofDeclared declared r.hashes.head?
    match (Remote.segments download.url).getLast? with
    | some file => .ok ("external-" ++ r.name ++ "/" ++ file, .download download, download.hasHash)
    | none => .error (.unexpectedFormat what ("no file name in " ++ declared))

def artifactOf (s : Surroundings) (deps : RootedPath) (indexUrl what : String) (forBuild : Bool)
    (r : Requirement) : Except Error Artifact := do
  let (place, origin, hasHash) ← planOf indexUrl what r
  let destination ← deps.join s.tree place
  pure {
    package := r.name
    path := destination.text
    requirementFile := what
    missingChecksum := !hasHash
    buildDependency := forBuild
    origin := origin }

/-- The artifact of a requirement of a file that may ask for hashes. -/
def checkedArtifact (s : Surroundings) (deps : RootedPath) (file : Requirements) (what : String)
    (forBuild : Bool) (r : Requirement) : Except Error Artifact := do
  let artifact ← artifactOf s deps (file.indexUrl.getD defaultPipIndex) what forBuild r
  if file.requireHashes ∧ artifact.missingChecksum then
    throw (.unexpectedFormat what ("--require-hashes is set but " ++ r.name ++ " has no hash"))
  pure artifact

/-- The text of a listing; none for one that is missing and may be. -/
def Listing.read (s : Surroundings) (l : Listing) : Except Error (Option String) :=
  if l.required then some <$> s.readText l.path else s.readOptional l.path

def artifactsOf (s : Surroundings) (deps : RootedPath) (l : Listing) :
    Except Error (List Artifact) := do
  match ← l.read s with
  | none => pure []
  | some text =>
    let what := l.path.subpath
    let file ← Requirements.parse what text
    file.requirements.mapM (checkedArtifact s deps file what l.forBuild)

def identityOf (s : Surroundings) (directory : RootedPath) : Except Error Identity := do
  let path ← directory.join s.tree Manifest.pythonFile
  match ← s.readOptional path with
  | some text => Manifest.pythonIdentity text (directoryName directory)
  | none => pure ⟨directoryName directory, none⟩

def resolve (s : Surroundings) (directory : RootedPath) (request : PackageRequest) :
    Except Error Resolution := do
  let identity ← identityOf s directory
  let checkout ← s.provenanceOf directory
  let deps ← s.outputDir.reRoot s.tree depsDir
  let files ← listings s directory request
  let artifacts := (← files.mapM (artifactsOf s deps)).flatten
  let main := Component.ofLocal .pip identity.name identity.version checkout
  pure {
    ecosystem := .pip
    path := directory.subpath
    identity := identity
    checkout := checkout
    artifacts := artifacts
    components :=
      Component.firstOfEach (main :: artifacts.map fun a => Component.ofArtifact .pip a none)
    sanitizedConfig := none }

end Pip
end FetchPlan
