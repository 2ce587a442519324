import FetchPlan.Error
import FetchPlan.Requirements.Basic
import FetchPlan.Requirements.Lines
import FetchPlan.Requirements.Options

/-!
Reading a requirements file. A line is a requirement (`name[extras]==version`, `name @
git+url@reference` or `name @ https://…`, with a marker and hashes where it has them), a line of
options, a comment, or empty; any other line is refused, so that no requirement is passed over.

Of a line of a requirement the options are taken off first, at the first space before a hyphen.
What is left has a URL where an at sign stands in it, and else pins a version. A version must be
one version: it is not empty, and the signs of ranges, lists and wild cards are refused.

A file that asks for hashes is only marked here; whether each requirement has one is judged when
its artifact is made.
-/
namespace FetchPlan.Requirements

inductive Flaw where
  | option | url | notPinned | notSingle | name
  deriving DecidableEq, Repr

def Flaw.reason : Flaw → String
  | .option => "unsupported requirement option"
  | .url => "unsupported URL"
  | .notPinned => "requirement is not pinned with =="
  | .notSingle => "requirement is not pinned to a single version"
  | .name => "invalid package name"

/-- The part before a separator, and the marker after it; a marker of nothing but semicolons and
blanks is none. -/
def splitMarker (separator s : List Char) : List Char × Option String :=
  match Text.cutAt separator s with
  | some (head, marker) =>
    let marker := Text.trim (marker.dropWhile (· == ';'))
    (Text.trim head, if marker = [] then none else some (String.ofList marker))
  | none => (Text.trim s, none)

/-- The parts before and after the last character that satisfies `p`. -/
def cutLast (p : Char → Bool) (s : List Char) : Option (List Char × List Char) :=
  (Text.cut p s.reverse).map fun (after, before) => (before.reverse, after.reverse)

/-- A repository URL without its lead: the reference stands after the last at sign of the path,
which is more than a slash. A fragment is dropped. -/
def repositoryPin? (s : List Char) : Option Pin := do
  let s := match Text.cut (· == '#') s with
    | some (head, _) => head
    | none => s
  let (scheme, remainder) ← Text.cutAt "://".toList s
  let (authority, rest) ← Text.cut (· == '/') remainder
  let (path, reference) ← cutLast (· == '@') ('/' :: rest)
  if reference = [] ∨ path.length ≤ 1 then none
  else pure (.repository (String.ofList (scheme ++ "://".toList ++ authority ++ path))
    (String.ofList reference))

def urlPin? (url : List Char) : Option Pin :=
  match Text.after? "git+" url with
  | some rest => repositoryPin? rest
  | none =>
    if (Text.after? "https://" url).isSome ∨ (Text.after? "http://" url).isSome then
      some (.url (String.ofList url))
    else none

/-- A character by which a version is not one version, or not clean. -/
def isLoose (c : Char) : Bool :=
  c == ',' || c == '*' || c == '<' || c == '>' || c == '!' || c == '~' || c == ' '

/-- The parts of a requirement that pins a version: the head before the pin, the pin and the
marker. -/
def versionSpec (spec : List Char) : Except Flaw (List Char × Pin × Option String) :=
  let (requirement, marker) := splitMarker [';'] spec
  match Text.cutAt "==".toList requirement with
  | none => .error .notPinned
  | some (head, version) =>
    let version := Text.trim version
    if version = [] ∨ version.head? = some '=' ∨ version.any isLoose then .error .notSingle
    else .ok (Text.trim head, .version (String.ofList version), marker)

def urlSpec (head rest : List Char) : Except Flaw (List Char × Pin × Option String) :=
  let (url, marker) := splitMarker [' ', ';'] (Text.trim rest)
  match urlPin? url with
  | some pin => .ok (Text.trim head, pin, marker)
  | none => .error .url

/-- A package name is of letters, digits, hyphens, underscores and points. -/
def isNameChar (c : Char) : Bool := c.isAlphanum || c == '-' || c == '_' || c == '.'

/-- The name and the extras of `name` or `name[extra, …]`. -/
def nameAndExtras? (head : List Char) : Option (String × List String) := do
  let (name, extras) ← match Text.cut (· == '[') head with
    | some (name, rest) => do
      let inner ← Text.before? "]" rest
      let extras := ((Text.fields (· == ',') inner).map Text.trim).filter (· ≠ [])
      pure (Text.trim name, extras)
    | none => some (head, [])
  if name ≠ [] ∧ name.all isNameChar then pure (String.ofList name, extras.map String.ofList)
  else none

/-- The requirement before the first space and hyphen, and the options from there on. -/
def splitOptions (line : List Char) : List Char × List Char :=
  match Text.cutAt [' ', '-'] line with
  | some (spec, options) => (Text.trim spec, Text.trim ('-' :: options))
  | none => (line, [])

def requirement (line : List Char) : Except Flaw Requirement := do
  let (spec, options) := splitOptions line
  let hashes ← (choices (Text.words options)).mapM fun c =>
    match hash? c with
    | some h => Except.ok h
    | none => .error .option
  let (head, pin, marker) ←
    match (Text.cutAt " @ ".toList spec).or (Text.cut (· == '@') spec) with
    | some (head, rest) => urlSpec head rest
    | none => versionSpec spec
  match nameAndExtras? head with
  | some (name, extras) => pure ⟨name, extras, marker, hashes, pin⟩
  | none => throw .name

inductive Line where
  | empty
  | options (settings : List Setting)
  | requirement (r : Requirement)
  deriving DecidableEq, Repr

/-- One line of a file, which `what` names in errors. -/
def line (what : String) (raw : List Char) : Except Error Line :=
  let text := Text.trim (withoutComment raw)
  match text with
  | [] => .ok .empty
  | '-' :: _ =>
    match (choices (Text.words text)).mapM setting? with
    | some settings => .ok (.options settings)
    | none =>
      .error (.unexpectedFormat what ("unsupported option line: " ++ String.ofList text))
  | _ =>
    match requirement text with
    | .ok r => .ok (.requirement r)
    | .error flaw =>
      .error (.unexpectedFormat what (flaw.reason ++ ": " ++ String.ofList text))

def set (file : Requirements) : Setting → Requirements
  | .indexUrl url => { file with indexUrl := some url }
  | .requireHashes => { file with requireHashes := true }
  | .trustedHost => file

def add (file : Requirements) : Line → Requirements
  | .empty => file
  | .options settings => settings.foldl set file
  | .requirement r => { file with requirements := file.requirements ++ [r] }

/-- The file that a text denotes; `what` names it in errors. -/
def parse (what text : String) : Except Error Requirements := do
  let ls ← (logicalLines text.toList).mapM (line what)
  pure (ls.foldl add empty)

end FetchPlan.Requirements
