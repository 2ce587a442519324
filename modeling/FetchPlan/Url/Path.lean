import FetchPlan.Text.Pieces
import FetchPlan.Url.Encoding

/-!
Paths of URLs, as lists of segments. A segment of one dot is dropped and a segment of two dots takes
the segment before it along, unless that one is a drive letter; dots may be percent-encoded.
-/
namespace FetchPlan.Url.Path

/-- A dot, as itself or percent-encoded; the dots that a segment consists of. -/
def dots : List Char → Option Nat
  | [] => some 0
  | '.' :: r => (dots r).map (· + 1)
  | '%' :: '2' :: c :: r => if c = 'e' ∨ c = 'E' then (dots r).map (· + 1) else none
  | _ => none

def isDriveLetter : List Char → Bool
  | [a, b] => a.isAlpha && (b == ':' || b == '|')
  | _ => false

/-- Whether a segment begins as a drive letter does, up to a separator. -/
def beginsAsDrive : List Char → Bool
  | a :: b :: r => isDriveLetter [a, b] && (r == [] || r.head? == some '\\')
  | _ => false

/-- The segments that are left when the last one is taken along; `done` is in reverse. -/
def pop : List (List Char) → List (List Char)
  | [] => []
  | s :: done => if beginsAsDrive s then s :: done else done

/-- Resolves the dots of a path; `done` holds, in reverse, the segments so far. -/
def resolve (done : List (List Char)) : List (List Char) → List (List Char)
  | [] => done.reverse
  | [s] =>
    match dots s with
    | some 1 => ([] :: done).reverse
    | some 2 => ([] :: pop done).reverse
    | _ => (s :: done).reverse
  | s :: t :: r =>
    match dots s with
    | some 1 => resolve done (t :: r)
    | some 2 => resolve (pop done) (t :: r)
    | _ => resolve (s :: done) (t :: r)

/-- Resolves the path of a local file. `none` if its first segment is a drive letter, which has no
host; a first segment that only begins with a drive letter and a colon becomes two. -/
def resolveFile (done : List (List Char)) : List (List Char) → Option (List (List Char))
  | [] => some done.reverse
  | s :: r =>
    if done = [] ∧ isDriveLetter s then none
    else match done, s with
      | [], a :: ':' :: c :: rest =>
        if a.isAlpha then
          if r = [] then some [[a, ':'], c :: rest] else resolveFile [c :: rest, [a, ':']] r
        else if r = [] then some [s] else resolveFile [s] r
      | _, _ =>
        match dots s with
        | some 1 => if r = [] then some ([] :: done).reverse else resolveFile done r
        | some 2 => if r = [] then some ([] :: pop done).reverse else resolveFile (pop done) r
        | _ => resolveFile (s :: done) r

/-- The path of a local file without the empty segments it starts with; one segment always stays. -/
def dropEmpty : List (List Char) → List (List Char)
  | [] => [[]]
  | [] :: r => dropEmpty r
  | s => s

/-- The segments of the text after an authority, for a special scheme (where a backslash separates
as a slash does) or another one. Only another scheme can have no segment at all. -/
def segments (special : Bool) (s : List Char) : List (List Char) :=
  let separates (c : Char) := c == '/' || (special && c == '\\')
  match s with
  | [] => if special then [[]] else []
  | c :: r => Text.fields separates (if separates c then r else c :: r)

def encoded (special : Bool) (s : List Char) : List (List Char) :=
  (segments special s).map (Text.percentEncode plainInPath)

end FetchPlan.Url.Path
