import FetchPlan.Provenance
import FetchPlan.RootedPath

/-!
Finding the repository of a location, and asking it for its commit and its remote. The search goes
up from the location to the first directory with an entry `.git`, whatever that is; only a missing
entry lets it go on. The questions are put to a program, whose answers are bytes.

The program is a parameter, and nothing is assumed of what it answers (`Git.run`). The model says
which questions are put to it, with which ceiling, and what becomes of an answer: an exit code
other than zero is a failure with the text of the complaint, bytes that are no text are replaced,
and blanks at the ends are dropped.
-/
namespace FetchPlan

open Files

structure Reply where
  exitCode : Nat
  out : List UInt8
  err : List UInt8
  deriving DecidableEq, Repr

/-- One run of the program. The ceiling is the directory above which it may not look for a
repository. -/
structure Question where
  location : String
  ceiling : Option String
  words : List String
  deriving DecidableEq, Repr

/-- A program that answers questions about repositories, or cannot be started. -/
structure Git where
  program : String
  run : Question → Except IoFailure Reply

/-- The bytes of a reply as a text without blanks at its ends. -/
def replyText (bytes : List UInt8) : String := String.ofList (Text.trim (Text.decodeLossy bytes))

/-- Looks for the marker of a repository in directories, the nearest first. -/
def firstRepository (t : Tree) : List String → Except Error (Option String)
  | [] => .ok none
  | directory :: r =>
    let marker := joinText directory ".git"
    match t.entry false marker with
    | .ok _ => .ok (some directory)
    | .error e =>
      if e = .notFound then firstRepository t r else .error (.io "stat .git" marker e)

/-- The nearest directory, at a location or above it, that is a repository. -/
def repositoryRoot (t : Tree) (location : String) : Except Error (Option String) :=
  firstRepository t (ancestors location)

namespace Git

def ask (g : Git) (q : Question) : Except Error String :=
  match g.run q with
  | .error e => .error (.io ("spawn " ++ g.program) q.location e)
  | .ok reply =>
    if reply.exitCode = 0 then .ok (replyText reply.out)
    else .error (.git (" ".intercalate q.words) q.location (replyText reply.err))

/-- The questions about a location whose repository is known: its commit and its remote. -/
def questions (location root : String) : Question × Question :=
  let ceiling := parent? root
  (⟨location, ceiling, ["rev-parse", "HEAD"]⟩, ⟨location, ceiling, ["remote", "get-url", "origin"]⟩)

def checkout (g : Git) (t : Tree) (location : String) : Except Error Checkout := do
  match ← repositoryRoot t location with
  | none => throw (.notAGitRepo location)
  | some root =>
    let (first, second) := questions location root
    let commit ← g.ask first
    let remote ← g.ask second
    pure (Checkout.ofRemote remote commit)

end Git
end FetchPlan
