import FetchPlan.Text.Pieces
import FetchPlan.Text.Percent

/-!
IPv4 addresses in host names. A host that ends in a number is an address or an error: one to four
numbers, each decimal, octal (leading zero) or hexadecimal (leading `0x`), of which the last fills
all the bytes that the others leave.
-/
namespace FetchPlan.Url.Ipv4

def digits? (base : Nat) (s : List Char) : Option Nat :=
  s.foldlM
    (fun n c => (Text.hexValue c).bind fun d => if d < base then some (base * n + d) else none) 0

/-- One number of an address. A lone `0x` is zero. -/
def number? : List Char → Option Nat
  | [] => none
  | '0' :: 'x' :: r => digits? 16 r
  | '0' :: 'X' :: r => digits? 16 r
  | '0' :: c :: r => digits? 8 (c :: r)
  | s => digits? 10 s

/-- The parts between points; one empty part at the end does not count. -/
def parts (s : List Char) : List (List Char) :=
  let ps := Text.fields (· == '.') s
  if ps.length > 1 ∧ ps.getLast? = some [] then ps.dropLast else ps

/-- Whether the last part of a host name is a number. -/
def endsInNumber (s : List Char) : Bool :=
  match (parts s).getLast? with
  | none => false
  | some last => (last ≠ [] && last.all Char.isDigit) || (number? last).isSome

/-- The value of an address of one to four parts. -/
def parse? (s : List Char) : Option Nat := do
  let ns ← (parts s).mapM number?
  if ns.length > 4 then none
  let last ← ns.getLast?
  let init := ns.dropLast
  let room := Nat.pow 256 (4 - init.length)
  if last ≥ room || init.any (· > 255) then none
  pure (init.foldl (fun n byte => 256 * n + byte) 0 * room + last)

def render (a : Nat) : List Char :=
  (".".intercalate ([3, 2, 1, 0].map fun i => toString (a / Nat.pow 256 i % 256))).toList

end FetchPlan.Url.Ipv4
