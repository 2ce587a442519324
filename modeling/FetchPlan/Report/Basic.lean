import FetchPlan.Resolution.Basic

/-!
Reports of a run: the packages that were resolved, the components of all of them, and the packages
that failed. The components of a report are in ascending order and hold each package URL once.

A report holds what the packages of a run were resolved to, in the order of the requests, and
after that the failures in the same order. Paths of artifacts are shown from the output directory
on. The exit code is two when a package failed and zero otherwise.
-/
namespace FetchPlan

structure ArtifactSummary where
  package : String
  kind : String
  version : String
  /-- The destination, relative to the output directory. -/
  path : String
  requirementFile : String
  missingChecksum : Bool
  buildDependency : Bool
  deriving DecidableEq, Repr

structure PackageReport where
  ecosystem : Ecosystem
  path : String
  name : String
  version : Option String
  vcsUrl : Option String
  artifacts : List ArtifactSummary
  components : List Component
  sanitizedConfig : Option String
  deriving DecidableEq, Repr

structure PackageFailure where
  ecosystem : Ecosystem
  path : String
  kind : Error.Kind
  message : String
  deriving DecidableEq, Repr

structure Tool where
  name : String
  version : String
  deriving DecidableEq, Repr

/-- What a run has found out. -/
structure Report where
  schema : String
  tool : Tool
  mode : Mode
  packages : List PackageReport
  components : List Component
  failures : List PackageFailure
  deriving DecidableEq, Repr

/-- The path that leads from a place to a path below it; any other path stays as it is. -/
def pathFrom (root : Files.Place) (path : String) : String :=
  let place := Files.placePlainly [] path
  if root.isPrefixOf place then "/".intercalate (place.drop root.length) else path

def ArtifactSummary.ofArtifact (outputRoot : Files.Place) (a : Artifact) : ArtifactSummary where
  package := a.package
  kind := a.kindName
  version := a.version
  path := pathFrom outputRoot a.path
  requirementFile := a.requirementFile
  missingChecksum := a.missingChecksum
  buildDependency := a.buildDependency

def PackageReport.ofResolution (outputRoot : Files.Place) (r : Resolution) : PackageReport where
  ecosystem := r.ecosystem
  path := r.path
  name := r.identity.name
  version := r.identity.version
  vcsUrl := r.checkout.map Checkout.vcsUrl
  artifacts := r.artifacts.map (ArtifactSummary.ofArtifact outputRoot)
  components := r.components
  sanitizedConfig := r.sanitizedConfig

def PackageFailure.ofError (request : PackageRequest) (e : Error) : PackageFailure :=
  ⟨request.ecosystem, request.path, e.kind, e.message⟩

namespace Component

/-- The least component of each package URL, in ascending order. -/
def merge (cs : List Component) : List Component :=
  firstOfEach (cs.mergeSort fun a b => (order a b).isLE)

end Component

namespace Report

def schemaName : String := "prefetch.report.v1"

def thisTool : Tool := ⟨"prefetch", "0.1.0"⟩

def ofResolutions (mode : Mode) (outputRoot : Files.Place) (rs : List Resolution)
    (failures : List PackageFailure) : Report where
  schema := schemaName
  tool := thisTool
  mode := mode
  packages := rs.map (PackageReport.ofResolution outputRoot)
  components := Component.merge (rs.flatMap Resolution.components)
  failures := failures

/-- The exit code of a run: two when a package failed. -/
def exitCode (r : Report) : Nat := if r.failures.isEmpty then 0 else 2

end Report
end FetchPlan
