import FetchPlan.Files.IoFailure
import FetchPlan.Files.Path
import FetchPlan.Text.Utf8

/-!
File trees of directories, files and symbolic links. `walk` follows a path as the system does:
each part must stand in a directory, and a link is replaced by its target, for at most forty
links. Reading and writing files and making directories are built on it.

The limits are those of the system: forty links, names of 255 bytes, paths below 4096 bytes. A
call sees one tree from its start to its end.

Assumed, and not part of the model: nobody else changes the tree during a call; everything in it
may be read and written; every name and every target of a link is text; and the working directory
can be told, as a place (`Tree.workingDirectory`).
-/
namespace FetchPlan.Files

inductive Entry where
  | directory
  | file (content : List UInt8)
  | link (target : String)
  deriving DecidableEq, Repr

/-- A file tree. The root is a directory always; relative paths start at the working directory,
whose place holds no link. -/
structure Tree where
  nodes : List (Place × Entry)
  workingDirectory : Place
  deriving DecidableEq, Repr

/-- Where a path leads: to an entry, or to a name that its directory does not have. -/
inductive Reached where
  | found (place : Place) (entry : Entry)
  | missing (directory : Place) (name : String)
  deriving DecidableEq, Repr

namespace Tree

def lookup (t : Tree) (p : Place) : Option Entry :=
  if p = [] then some .directory else t.nodes.lookup p

/-- The number of links that one walk follows. -/
def linkLimit : Nat := 40

/-- The number of bytes that a name may have. -/
def nameLimit : Nat := 255

/-- The number of bytes from which on a path is too long. -/
def pathLimit : Nat := 4096

/-- The place where the target of a link starts. -/
def start (here : Place) (path : String) : Place := if isAbsolute path then [] else here

/-- Follows the parts of a path from a place. A link at the end is followed when `follow` is set. -/
def walk (t : Tree) (follow : Bool) (links : Nat) (here : Place) :
    List String → Except IoFailure Reached
  | [] =>
    match t.lookup here with
    | some e => .ok (.found here e)
    | none => .error .notFound
  | part :: rest =>
    match t.lookup here with
    | some .directory =>
      if isStill part then walk t follow links here rest
      else if part = ".." then walk t follow links here.dropLast rest
      else if part.utf8ByteSize > nameLimit then .error .nameTooLong
      else
        match t.lookup (here ++ [part]) with
        | none => if rest = [] then .ok (.missing here part) else .error .notFound
        | some (.link target) =>
          if rest = [] ∧ ¬ follow then .ok (.found (here ++ [part]) (.link target))
          else
            match links with
            | 0 => .error .tooManyLinks
            | links + 1 => walk t follow links (start here target) (parts target ++ rest)
        | some _ => walk t follow links (here ++ [part]) rest
    | some _ => .error .notADirectory
    | none => .error .notFound
  termination_by parts => (links, parts.length)

/-- Where a path leads, for a call that takes its text. -/
def reach (t : Tree) (follow : Bool) (path : String) : Except IoFailure Reached :=
  if path.contains '\x00' then .error .nulInPath
  else if path = "" then .error .notFound
  else if path.utf8ByteSize ≥ pathLimit then .error .nameTooLong
  else t.walk follow linkLimit (start t.workingDirectory path) (parts path)

def entry (t : Tree) (follow : Bool) (path : String) : Except IoFailure Entry := do
  match ← t.reach follow path with
  | .found _ e => pure e
  | .missing _ _ => throw .notFound

/-- The place without links that a place with links leads to. -/
def canonical (t : Tree) (p : Place) : Except IoFailure Place :=
  if p.any (·.contains '\x00') then .error .nulInPath
  else match t.walk true linkLimit [] p with
    | .ok (.found q _) => .ok q
    | .ok (.missing _ _) => .error .notFound
    | .error e => .error e

def isFile (t : Tree) (path : String) : Bool :=
  match t.entry true path with
  | .ok (.file _) => true
  | _ => false

def isDirectory (t : Tree) (path : String) : Bool :=
  match t.entry true path with
  | .ok .directory => true
  | _ => false

def readText (t : Tree) (path : String) : Except IoFailure String := do
  match ← t.entry true path with
  | .file content =>
    match Text.decode? content with
    | some s => pure (String.ofList s)
    | none => throw .notUtf8
  | _ => throw .isADirectory

def put (t : Tree) (p : Place) (e : Entry) : Tree :=
  if (t.nodes.lookup p).isSome then
    { t with nodes := t.nodes.map fun (q, f) => if q = p then (q, e) else (q, f) }
  else { t with nodes := t.nodes ++ [(p, e)] }

/-- Writes a file, which a link at the end of the path may lead to. -/
def writeFile (t : Tree) (path : String) (content : List UInt8) : Except IoFailure Tree := do
  match ← t.reach true path with
  | .found p (.file _) => pure (t.put p (.file content))
  | .found _ _ => throw .isADirectory
  | .missing d name => pure (t.put (d ++ [name]) (.file content))

/-- The path without slashes and points at its end. -/
def withoutEnd (path : String) : String :=
  match (ancestors path)[1]?, ((parts path).filter fun p => !isStill p).getLast? with
  | some above, some name => joinText above name
  | _, _ => path

def make (t : Tree) (path : String) (e : Entry) : Except IoFailure Tree := do
  match ← t.reach false path with
  | .found _ _ => throw .fileExists
  | .missing d name => pure (t.put (d ++ [name]) e)

def makeDirectory (t : Tree) (path : String) : Except IoFailure Tree :=
  t.make (withoutEnd path) .directory

/-- Makes the first directory of a list, in which each path stands below the next, and those above
it as far as they are missing. -/
def makeFirst (t : Tree) : List String → Except IoFailure Tree
  | [] => .error (.other "failed to create whole tree")
  | path :: above =>
    if path = "" then .ok t
    else
      match t.makeDirectory path with
      | .ok t => .ok t
      | .error e =>
        if e = .notFound then do
          let t ← makeFirst t above
          match t.makeDirectory path with
          | .ok t => pure t
          | .error e => if t.isDirectory path then pure t else throw e
        else if t.isDirectory path then .ok t
        else .error e

/-- Makes a directory and those above it, as far as they are missing. -/
def makeDirectories (t : Tree) (path : String) :
    Except IoFailure Tree := t.makeFirst (ancestors path)

end Tree
end FetchPlan.Files
