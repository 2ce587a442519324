import FetchPlan.Url.Domain
import FetchPlan.Url.Ipv4
import FetchPlan.Url.Ipv6

/-!
Hosts of URLs, as the text that the URL shows: an IPv6 address in brackets, or a name. The name of a
special scheme is percent-decoded, brought into ASCII, and read as an IPv4 address when it ends in a
number; the name of any other scheme is kept as it is, percent-encoded where it must be.
-/
namespace FetchPlan.Url.Host

def bracketed? (s : List Char) : Option (List Char) :=
  match s with
  | '[' :: r =>
    if r.getLast? = some ']' then (Ipv6.parse? r.dropLast).map Ipv6.render else none
  | _ => none

/-- The host of a special scheme; never empty. -/
def special? (s : List Char) : Option (List Char) :=
  if s.head? = some '[' then bracketed? s
  else do
    let decoded ← Text.decode? (Text.percentDecode s)
    let domain ← Domain.toAscii decoded
    if domain = [] then none
    else if Ipv4.endsInNumber domain then (Ipv4.parse? domain).map Ipv4.render
    else some domain

/-- A character that the host of no scheme may hold. -/
def forbidden (c : Char) : Bool :=
  c == '\x00' || c == '\t' || c == '\n' || c == '\r' || c == ' ' || c == '#' || c == '/' ||
    c == ':' || c == '<' || c == '>' || c == '?' || c == '@' || c == '[' || c == '\\' || c == ']' ||
    c == '^' || c == '|'

def general? (s : List Char) : Option (List Char) :=
  if s.head? = some '[' then bracketed? s
  else if s = [] ∨ s.any forbidden then none
  else some (Text.percentEncode plainInHost s)

end FetchPlan.Url.Host
