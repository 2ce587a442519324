import FetchPlan.Url.Host
import FetchPlan.Url.Path

/-!
URLs with a host. `parse?` reads a text by the rules of the URL standard and gives the parts as
the URL shows them; a text that is no URL, or a URL without a host, gives `none`. `render` writes
the parts back. A special scheme (`http`, `https`, `ws`, `wss`, `ftp`) has a host always, however
many slashes stand before it; `file` and other schemes need two.

The text is taken apart from left to right: scheme, user information, host, port, path, query,
fragment. Each part is encoded with the class of characters that it shows as themselves; hosts of
special schemes are brought into one spelling (`Url.Host`), and dots are resolved out of paths
(`Url.Path`).
-/
namespace FetchPlan

/-- A URL with a host. All parts are encoded; `path` holds the segments, each of which a slash comes
before, and an absent password is empty. -/
structure Url where
  scheme : String
  username : String
  password : String
  host : String
  port : Option Nat
  path : List String
  query : Option String
  fragment : Option String
  deriving DecidableEq, Repr

namespace Url

/-- What a scheme says about the rest of its URLs. -/
inductive SchemeKind where
  | special (port : Option Nat) | file | other
  deriving DecidableEq, Repr

/-- The kind of a scheme and, for a special one, the port that goes without saying. -/
def schemeKind (scheme : String) : SchemeKind :=
  if scheme = "http" ∨ scheme = "ws" then .special (some 80)
  else if scheme = "https" ∨ scheme = "wss" then .special (some 443)
  else if scheme = "ftp" then .special (some 21)
  else if scheme = "file" then .file
  else .other

/-- The text without control characters and spaces at its ends, and without tabs and line ends. -/
def clean (s : List Char) : List Char :=
  let edge (c : Char) := c.toNat ≤ 0x20
  (((s.dropWhile edge).reverse.dropWhile edge).reverse).filter
    fun c => !(c == '\t' || c == '\n' || c == '\r')

/-- The scheme, in lower case, and the text after its colon. -/
def scheme? (s : List Char) : Option (List Char × List Char) := do
  let (name, rest) ← Text.cut (· == ':') s
  let first ← name.head?
  if first.isAlpha ∧ name.all fun c => c.isAlphanum || c == '+' || c == '-' || c == '.' then
    pure (name.map Char.toLower, rest)
  else none

def splitAuthority (special : Bool) (s : List Char) : List Char × List Char :=
  let inside (c : Char) := !(c == '/' || c == '?' || c == '#' || (special && c == '\\'))
  (s.takeWhile inside, s.dropWhile inside)

/-- The user information and the host with its port: the last at sign divides them. -/
def splitUserInfo (s : List Char) : List Char × List Char :=
  if s.contains '@' then
    (((s.reverse.dropWhile (· ≠ '@')).drop 1).reverse, (s.reverse.takeWhile (· ≠ '@')).reverse)
  else ([], s)

/-- The host and the text from the colon of its port on; a colon between brackets does not count. -/
def splitPort (bracket : Bool) : List Char → List Char × List Char
  | [] => ([], [])
  | ':' :: r => if bracket then let (h, p) := splitPort true r; (':' :: h, p) else ([], ':' :: r)
  | c :: r =>
    let (h, p) := splitPort (if c = '[' then true else if c = ']' then false else bracket) r
    (c :: h, p)

/-- The port (`none` if it has no digits or goes without saying) and the text after it. -/
def port? (implied : Option Nat) : List Char → Option (Option Nat × List Char)
  | [] => some (none, [])
  | _ :: r =>
    let ds := r.takeWhile Char.isDigit
    let rest := r.dropWhile Char.isDigit
    let n := ds.foldl (fun n c => 10 * n + (c.toNat - 48)) 0
    if n > 65535 ∨ (rest ≠ [] ∧ rest.head? ≠ some '\\') then none
    else some (if ds = [] ∨ some n = implied then none else some n, rest)

/-- The path, query and fragment of a text, not yet encoded. -/
def splitTail (s : List Char) : List Char × Option (List Char) × Option (List Char) :=
  let (s, fragment) := match Text.cut (· == '#') s with
    | some (a, b) => (a, some b)
    | none => (s, none)
  match Text.cut (· == '?') s with
  | some (a, b) => (a, some b, fragment)
  | none => (s, none, fragment)

/-- Puts the parts of a URL together; `segments` are the resolved segments of its path. -/
def assemble (special : Bool) (scheme username password host : List Char) (port : Option Nat)
    (segments : List (List Char)) (query fragment : Option (List Char)) : Url where
  scheme := String.ofList scheme
  username := String.ofList (Text.percentEncode plainInUserInfo username)
  password := String.ofList (Text.percentEncode plainInUserInfo password)
  host := String.ofList host
  port := port
  path := segments.map String.ofList
  query := query.map fun q => String.ofList (Text.percentEncode (plainInQuery special) q)
  fragment := fragment.map fun f => String.ofList (Text.percentEncode plainInFragment f)

/-- Reads what follows the slashes of a URL that is no local file. -/
def parseAuthority? (special : Bool) (implied : Option Nat) (scheme s : List Char) :
    Option Url := do
  let (authority, rest) := splitAuthority special s
  let (userInfo, place) := splitUserInfo authority
  let (username, password) := (Text.cut (· == ':') userInfo).getD (userInfo, [])
  let (hostText, portText) := splitPort false place
  let host ← if special then Host.special? hostText else Host.general? hostText
  let (port, more) ← port? implied portText
  let (path, query, fragment) := splitTail (more ++ rest)
  pure (assemble special scheme username password host port
    (Path.resolve [] (Path.encoded special path)) query fragment)

/-- Reads what follows the two slashes of a local file. -/
def parseFile? (s : List Char) : Option Url := do
  let (hostText, rest) := splitAuthority true s
  if Path.isDriveLetter hostText then none
  let host ← Host.special? hostText
  if host = "localhost".toList then none
  let (path, query, fragment) := splitTail rest
  let segments ← Path.resolveFile [] (Path.encoded true path)
  pure (assemble true "file".toList [] [] host none (Path.dropEmpty segments) query fragment)

def parse? (text : String) : Option Url := do
  let (scheme, rest) ← scheme? (clean text.toList)
  let isSlash (c : Char) := c == '/' || c == '\\'
  match schemeKind (String.ofList scheme) with
  | .special implied => parseAuthority? true implied scheme (rest.dropWhile isSlash)
  | .file =>
    match rest with
    | a :: b :: r => if isSlash a && isSlash b then parseFile? r else none
    | _ => none
  | .other => (Text.after? "//" rest).bind (parseAuthority? false none scheme)

/-- The user information as it stands before the host. -/
def userInfoText (u : Url) : String :=
  if u.username = "" ∧ u.password = "" then ""
  else u.username ++ (if u.password = "" then "" else ":" ++ u.password) ++ "@"

def pathText (u : Url) : String := String.join (u.path.map ("/" ++ ·))

def render (u : Url) : String :=
  u.scheme ++ "://" ++ u.userInfoText ++ u.host ++
    (match u.port with | some p => ":" ++ toString p | none => "") ++ u.pathText ++
    (match u.query with | some q => "?" ++ q | none => "") ++
    (match u.fragment with | some f => "#" ++ f | none => "")

def hasCredentials (u : Url) : Bool := u.username ≠ "" || u.password ≠ ""

def withoutCredentials (u : Url) : Url := { u with username := "", password := "" }

/-- The segments of the path that are not empty. -/
def segments (u : Url) : List String := u.path.filter (· ≠ "")

end Url
end FetchPlan
