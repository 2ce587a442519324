import FetchPlan.Manifest

/-!
Lock files of cargo: the crates that a build uses, each with its version, its source and its
checksum. A source is a text of one of three kinds, or absent for a crate that stands in the
source tree; a text of any other kind is refused.

The name and the version of a crate have to be strings. Its source and its checksum need not be
there, and one that is no string counts as absent. A source of git is `git+URL?query#commit`, of
which the query may be missing; a source of a registry is `registry+URL`, or `sparse+URL`, whose
lead belongs to the index.
-/
namespace FetchPlan

structure LockedCrate where
  name : String
  version : String
  source : Option String
  checksum : Option String
  deriving DecidableEq, Repr

/-- Where a locked crate comes from. -/
inductive CrateSource where
  | here
  | registry (indexUrl : String)
  | git (url : String) (query : Option String) (commit : String)
  deriving DecidableEq, Repr

namespace Lockfile

def fileName : String := "Cargo.lock"

def required (entry : Toml.Entries) (key : String) : Except Error String :=
  match entry.string? key with
  | some s => .ok s
  | none =>
    .error (.unexpectedFormat fileName ("[[package]] entry without string \x60" ++ key ++ "\x60"))

def crate (entry : Toml.Entries) : Except Error LockedCrate := do
  let name ← required entry "name"
  let version ← required entry "version"
  pure ⟨name, version, entry.string? "source", entry.string? "checksum"⟩

def parse (text : String) : Except Error (List LockedCrate) := do
  let root ← Manifest.document fileName text
  match root.lookup "package" with
  | none => pure []
  | some (.tables rows) => rows.mapM crate
  | some _ =>
    throw (.unexpectedFormat fileName "\x60package\x60 is not an array of tables")

end Lockfile

namespace CrateSource

/-- Reads a source of git after its lead: a URL, a query where there is one, and a commit. -/
def gitOfText (source : String) (rest : List Char) : Except Error CrateSource :=
  match Text.cut (· == '#') rest with
  | none => .error (.unexpectedFormat source "git source without resolved commit")
  | some (locator, commit) =>
    let (url, query) := match Text.cut (· == '?') locator with
      | some (url, query) => (url, some (String.ofList query))
      | none => (locator, none)
    if commit = [] then .error (.unexpectedFormat source "git source without resolved commit")
    else if url = [] then .error (.unexpectedFormat source "git source without repository URL")
    else .ok (.git (String.ofList url) query (String.ofList commit))

/-- The source that a text denotes. The index of a sparse registry keeps its lead. -/
def ofText (source : String) : Except Error CrateSource :=
  match Text.after? "registry+" source.toList with
  | some [] => .error (.unexpectedFormat source "registry source without index URL")
  | some index => .ok (.registry (String.ofList index))
  | none =>
    match Text.after? "sparse+" source.toList with
    | some [] => .error (.unexpectedFormat source "sparse source without index URL")
    | some _ => .ok (.registry source)
    | none =>
      match Text.after? "git+" source.toList with
      | some rest => gitOfText source rest
      | none => .error (.unexpectedFormat source "unrecognized source kind")

def ofLocked : Option String → Except Error CrateSource
  | none => .ok .here
  | some source => ofText source

end CrateSource
end FetchPlan
