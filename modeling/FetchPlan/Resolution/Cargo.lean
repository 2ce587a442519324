import FetchPlan.Lockfile
import FetchPlan.Resolution.Basic
import FetchPlan.Sanitize

/-!
Resolving a cargo package: its manifest names it, its lock file lists what it is built from. Each
locked crate has a component; each one that does not stand in the source tree has an artifact too.

A crate goes to `<name>-<version>` below the directory of crates. A release without a checksum in
the lock file is flagged; a repository is not, since its commit is locked. The version of the
package itself may be missing in the manifest, and is then looked for in the lock file under the
name of the package (`mainVersion`).
-/
namespace FetchPlan.Cargo

def depsDir : String := "deps/cargo"

/-- The places of the settings of cargo; the first one that there is counts. -/
def configFiles : List String := [".cargo/config.toml", ".cargo/config"]

/-- The version of the package itself. A manifest without one takes that of the locked crate of its
name that stands in the source tree. -/
def mainVersion (identity : Identity) (crates : List LockedCrate) : Option String :=
  identity.version.or
    ((crates.find? fun c => c.source.isNone && c.name == identity.name).map (·.version))

/-- Where the artifact of a locked crate comes from; a crate of the source tree has none. -/
def originOf (crate : LockedCrate) : Except Error (Option Origin) := do
  match ← CrateSource.ofLocked crate.source with
  | .here => pure none
  | .registry indexUrl =>
    pure (some (.release ⟨indexUrl, .sourceArchive, crate.version, crate.checksum⟩))
  | .git url _ commit => return some (.repository (← Repository.parse url commit))

/-- Whether an origin lacks the checksum that it could have. -/
def lacksChecksum : Origin → Bool
  | .release r => r.checksum.isNone
  | _ => false

/-- The artifact of a locked crate, if it has one, and its component. -/
def entryOf (s : Surroundings) (deps : RootedPath) (lockFile : String) (checkout : Option Checkout)
    (crate : LockedCrate) : Except Error (Option Artifact × Component) := do
  match ← originOf crate with
  | none => pure (none, Component.ofLocal .cargo crate.name (some crate.version) checkout)
  | some origin =>
    let destination ← deps.join s.tree (crate.name ++ "-" ++ crate.version)
    let artifact : Artifact := {
      package := crate.name
      path := destination.text
      requirementFile := lockFile
      missingChecksum := lacksChecksum origin
      buildDependency := false
      origin := origin }
    pure (some artifact, Component.ofArtifact .cargo artifact (some crate.version))

/-- The settings of cargo that are safe to fetch with; none where no file has any. -/
def sanitizedConfig (s : Surroundings) (directory : RootedPath) :
    List String → Except Error (Option String)
  | [] => .ok none
  | name :: r => do
    let path ← directory.join s.tree name
    match ← s.readOptional path with
    | none => sanitizedConfig s directory r
    | some text =>
      let out ← Sanitize.sanitize Sanitize.cargoPolicy text
      pure (if out = "" then none else some out)

def resolve (s : Surroundings) (directory : RootedPath) : Except Error Resolution := do
  let manifestPath ← directory.join s.tree Manifest.cargoFile
  let identity ← Manifest.cargoIdentity (← s.readText manifestPath) (directoryName directory)
  let lockPath ← directory.join s.tree Lockfile.fileName
  let crates ← Lockfile.parse (← s.readText lockPath)
  let checkout ← s.provenanceOf directory
  let deps ← s.outputDir.reRoot s.tree depsDir
  let entries ← crates.mapM (entryOf s deps lockPath.subpath checkout)
  let config ← sanitizedConfig s directory configFiles
  let main := Component.ofLocal .cargo identity.name (mainVersion identity crates) checkout
  pure {
    ecosystem := .cargo
    path := directory.subpath
    identity := identity
    checkout := checkout
    artifacts := entries.filterMap (·.1)
    components := Component.firstOfEach (main :: entries.map (·.2))
    sanitizedConfig := config }

end FetchPlan.Cargo
