import FetchPlan.Text.Percent

/-!
Which characters each part of a URL shows as themselves. The classes grow from the fragment to the
user information; everything outside ASCII is percent-encoded in all of them.
-/
namespace FetchPlan.Url

def isControl (c : Char) : Bool := c.toNat < 0x20 || c.toNat == 0x7F

def plainInHost (c : Char) : Bool := !isControl c

def plainInFragment (c : Char) : Bool :=
  plainInHost c && !(c == ' ' || c == '"' || c == '<' || c == '>' || c == '\x60')

def plainInPath (c : Char) : Bool :=
  plainInFragment c && !(c == '#' || c == '?' || c == '\x7b' || c == '\x7d')

def plainInUserInfo (c : Char) : Bool :=
  plainInPath c && !(c == '/' || c == ':' || c == ';' || c == '=' || c == '@' || c == '[' ||
    c == '\\' || c == ']' || c == '^' || c == '|')

/-- The query of a special scheme also encodes the apostrophe. -/
def plainInQuery (special : Bool) (c : Char) : Bool :=
  plainInHost c && !(c == ' ' || c == '"' || c == '#' || c == '<' || c == '>') &&
    !(special && c == '\'')

end FetchPlan.Url
