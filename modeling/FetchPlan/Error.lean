import FetchPlan.Files.IoFailure

/-!
The causes for which a package cannot be resolved, and the one place that words them.

An error has a coarse class (`Error.kind`), which a report shows, and a message. A message names
what was refused: the document, the path with its root, or the step of input and output that
failed. Some failures have another one below them, and `messageChain` gives the messages of both.
-/
namespace FetchPlan

/-- Why a package, a path or a document is refused. -/
inductive Error where
  /-- A derived path left its declared root. -/
  | pathEscape (path root : String)
  /-- A manifest, lock file, requirements file or configuration does not fit its grammar. -/
  | unexpectedFormat (what reason : String)
  /-- No directory at or above the path holds a repository. -/
  | notAGitRepo (path : String)
  /-- The repository was found but the question could not be answered. -/
  | git (command path stderr : String)
  /-- An input or output step failed. -/
  | io (operation path : String) (source : IoFailure)
  deriving DecidableEq, Repr

namespace Error

/-- The coarse class of an error. -/
inductive Kind where
  | pathEscape | unexpectedFormat | notAGitRepo | git | io
  deriving DecidableEq, Repr

def Kind.name : Kind → String
  | .pathEscape => "path_escape"
  | .unexpectedFormat => "unexpected_format"
  | .notAGitRepo => "not_a_git_repo"
  | .git => "git"
  | .io => "io"

def Kind.ofName? (name : String) : Option Kind :=
  [.pathEscape, .unexpectedFormat, .notAGitRepo, .git, .io].find? fun k => k.name == name

theorem Kind.ofName?_name (k : Kind) : ofName? k.name = some k := by cases k <;> rfl

def kind : Error → Kind
  | .pathEscape .. => .pathEscape
  | .unexpectedFormat .. => .unexpectedFormat
  | .notAGitRepo .. => .notAGitRepo
  | .git .. => .git
  | .io .. => .io

/-- The failed input or output step below the error. -/
def source : Error → Option IoFailure
  | .io _ _ source => some source
  | _ => none

def message : Error → String
  | .pathEscape path root => "path " ++ path ++ " escapes root " ++ root
  | .unexpectedFormat what reason => "unexpected format in " ++ what ++ ": " ++ reason
  | .notAGitRepo path => path ++ " is not inside a git repository"
  | .git command path stderr => "git " ++ command ++ " failed in " ++ path ++ ": " ++ stderr
  | .io operation path source =>
    "I/O error during " ++ operation ++ " (" ++ path ++ "): " ++ source.message

/-- The text of an error followed by the text of what is below it, as one line. -/
def messageChain (e : Error) : String :=
  match e.source with
  | some source => e.message ++ ": " ++ source.message
  | none => e.message

end Error
end FetchPlan
