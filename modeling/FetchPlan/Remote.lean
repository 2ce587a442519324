import FetchPlan.Url.Basic

/-!
Remotes of repositories: URLs, and the short form `user@host:path`, which stands for the `ssh` URL
of the same parts. A remote is recorded without user name and password.

A text is first taken for a URL, then for the short form. What denotes neither is recorded as it
is written; it has no host and no segments.
-/
namespace FetchPlan.Remote

/-- The `ssh` URL of a remote in the short form: a non-empty authority without a slash, a colon,
and a path that does not begin with a slash. A text with `://` is no short form. -/
def sshUrl? (remote : String) : Option String :=
  let s := remote.toList
  if Text.contains "://".toList s then none
  else match Text.cut (· == ':') s with
    | some (authority, path) =>
      if authority ≠ [] ∧ ¬ authority.contains '/' ∧ path.head? ≠ some '/' then
        some (String.ofList ("ssh://".toList ++ authority ++ '/' :: path))
      else none
    | none => none

/-- The URL with a host that a remote denotes, in either form. -/
def url? (remote : String) : Option Url :=
  (Url.parse? remote).or ((sshUrl? remote).bind Url.parse?)

def host? (remote : String) : Option String :=
  (url? remote).map fun u => String.ofList (u.host.toList.map Char.toLower)

/-- The segments of a remote's path that are not empty. -/
def segments (remote : String) : List String :=
  match url? remote with
  | some u => u.segments
  | none => []

/-- A URL without its credentials; one that has none is left as it is written. -/
def stripCredentials (remote : String) : String :=
  match Url.parse? remote with
  | some u => if u.hasCredentials then u.withoutCredentials.render else remote
  | none => remote

/-- The form in which a remote is recorded: a URL without credentials, where it denotes one. -/
def normalize (remote : String) : String :=
  match Url.parse? remote with
  | some _ => stripCredentials remote
  | none =>
    match sshUrl? remote with
    | some ssh => stripCredentials ssh
    | none => remote

end FetchPlan.Remote
