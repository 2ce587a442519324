import FetchPlan.Error
import FetchPlan.Files.Tree

/-!
Paths that stay under a declared root. Each join resolves the path the way the system would: a
link is followed wherever it stands, two points lead back from the place resolved so far, and the
result must be the root or lie below it. Nothing is cut off to make a path fit.

Existing prefixes are made canonical one by one (`step`), and what is missing stays below the
place that was resolved so far. So a path may be declared or joined before anything stands there.
A refusal names the candidate as it was put together, before it was resolved.

Assumed: the working directory, from which a relative path is read, can be told and is text. A
system where it cannot be told, or is no text, refuses a relative path before the first step;
these two refusals have no counterpart here, since `Tree.workingDirectory` is a place always.
-/
namespace FetchPlan

open Files

/-- A place under a root. -/
structure RootedPath where
  root : Place
  path : Place
  deriving DecidableEq, Repr

namespace RootedPath

/-- The place that the last name of a place leads to. A link whose target is missing leads to the
target as it is written, so that it cannot be used to get past the root. -/
def follow (t : Tree) (p : Place) : Except IoFailure Place :=
  match t.canonical p with
  | .ok q => .ok q
  | .error e =>
    if e = .notFound then
      match t.walk false Tree.linkLimit [] p with
      | .ok (.found _ (.link target)) => .ok (placePlainly p.dropLast target)
      | _ => .ok p
    else .error e

/-- One step from a resolved place. -/
def step (t : Tree) (p : Place) (part : String) : Except IoFailure Place :=
  if isStill part then .ok p
  else if part = ".." then .ok p.dropLast
  else follow t (p ++ [part])

/-- The place that a path leads to, whether it exists or not. -/
def resolve (t : Tree) (path : String) : Except IoFailure Place :=
  (if isAbsolute path then parts path else t.workingDirectory ++ parts path).foldlM (step t) []

/-- Declares a root, which need not exist. -/
def new (t : Tree) (path : String) : Except Error RootedPath :=
  match resolve t path with
  | .ok p => .ok ⟨p, p⟩
  | .error e => .error (.io "resolve root" path e)

/-- The path that `rel` denotes from here, if it stays under the root. -/
def join (t : Tree) (r : RootedPath) (rel : String) : Except Error RootedPath :=
  let candidate := joinText (Place.text r.path) rel
  match resolve t candidate with
  | .ok p =>
    if r.root.isPrefixOf p then .ok ⟨r.root, p⟩
    else .error (.pathEscape candidate (Place.text r.root))
  | .error e => .error (.io "resolve path" candidate e)

/-- The path that `rel` denotes from here, as a root of its own. -/
def reRoot (t : Tree) (r : RootedPath) (rel : String) : Except Error RootedPath :=
  match join t r rel with
  | .ok s => .ok ⟨s.path, s.path⟩
  | .error e => .error e

def text (r : RootedPath) : String := Place.text r.path

/-- The path from the root on; a point for the root itself. -/
def subpath (r : RootedPath) : String :=
  match r.path.drop r.root.length with
  | [] => "."
  | names => "/".intercalate names

def isInside (r other : RootedPath) : Bool := other.path.isPrefixOf r.path

def fileName (r : RootedPath) : Option String := r.path.getLast?

end RootedPath
end FetchPlan
