import FetchPlan.Artifact
import FetchPlan.Manifest
import FetchPlan.RootedPath

/-!
Resolutions: what one requested package needs, found out without writing anything. A package is
resolved whole or not at all.

`Surroundings` is all that the resolution of a package reads. The lookup of checkouts is a
parameter, so that nothing is assumed of the program behind it. What is only told to a log is left
out.
-/
namespace FetchPlan

open Files

structure Resolution where
  ecosystem : Ecosystem
  /-- The directory of the package, relative to the source directory. -/
  path : String
  identity : Identity
  checkout : Option Checkout
  artifacts : List Artifact
  components : List Component
  /-- The settings of cargo that are safe to fetch with, where there are any. -/
  sanitizedConfig : Option String
  deriving DecidableEq, Repr

/-- What the packages of one run have in common. -/
structure Surroundings where
  tree : Tree
  sourceDir : RootedPath
  outputDir : RootedPath
  mode : Mode
  /-- Finds the checkout that a location belongs to. -/
  lookup : String → Except Error Checkout

namespace Surroundings

def readText (s : Surroundings) (p : RootedPath) : Except Error String :=
  (s.tree.readText p.text).mapError (.io "read file" p.text)

def readOptional (s : Surroundings) (p : RootedPath) : Except Error (Option String) :=
  match s.tree.readText p.text with
  | .ok text => .ok (some text)
  | .error e => if e = .notFound then .ok none else .error (.io "read file" p.text e)

def provenanceOf (s : Surroundings) (directory : RootedPath) : Except Error (Option Checkout) :=
  provenance (s.lookup directory.text) s.mode (directory.isInside s.outputDir)

end Surroundings

/-- The name of a package directory; the root has none. -/
def directoryName (directory : RootedPath) : String := directory.fileName.getD ""

end FetchPlan
