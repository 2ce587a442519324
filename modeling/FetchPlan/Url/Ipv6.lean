import FetchPlan.Text.Percent

/-!
IPv6 addresses between brackets: eight groups of hexadecimal digits, of which one run of zero groups
may be left out, and the last two may be written as an IPv4 address. The text form is canonical: the
first longest run of at least two zero groups is left out.
-/
namespace FetchPlan.Url.Ipv6

/-- Reads at most `n` hexadecimal digits: the value, their number and the rest. -/
def hexDigits : Nat → List Char → Nat × Nat × List Char
  | 0, s => (0, 0, s)
  | _ + 1, [] => (0, 0, [])
  | n + 1, c :: r =>
    match Text.hexValue c with
    | none => (0, 0, c :: r)
    | some d =>
      let (v, k, rest) := hexDigits n r
      (d * Nat.pow 16 k + v, k + 1, rest)

/-- A decimal number of at most 255 without a leading zero, and the rest. -/
def byte? (s : List Char) : Option (Nat × List Char) :=
  let ds := s.takeWhile Char.isDigit
  let n := ds.foldl (fun n c => 10 * n + (c.toNat - 48)) 0
  if ds = [] ∨ n > 255 ∨ (ds.head? = some '0' ∧ ds.length > 1) then none
  else some (n, s.dropWhile Char.isDigit)

/-- Two groups from an IPv4 address that ends the text. -/
def tail4? (s : List Char) : Option (List Nat) := do
  let (a, s) ← byte? s
  let '.' :: s := s | none
  let (b, s) ← byte? s
  let '.' :: s := s | none
  let (c, s) ← byte? s
  let '.' :: s := s | none
  let (d, s) ← byte? s
  if s = [] then pure [256 * a + b, 256 * c + d] else none

/-- Reads the groups of an address after the groups `done`; `gap` is the number of groups up to and
with the one that stands for the left-out run. At most `room` groups may follow. -/
def groups? (done : List Nat) (gap : Option Nat) : Nat → List Char → Option (List Nat × Option Nat)
  | _, [] => some (done, gap)
  | 0, _ :: _ => none
  | room + 1, ':' :: r =>
    if gap.isSome then none else groups? (done ++ [0]) (some (done.length + 1)) room r
  | room + 1, s =>
    let (v, k, rest) := hexDigits 4 s
    if k = 0 then none
    else match rest with
      | [] => some (done ++ [v], gap)
      | '.' :: _ => if room = 0 then none else (tail4? s).map fun t => (done ++ t, gap)
      | ':' :: r => if r = [] then none else groups? (done ++ [v]) gap room r
      | _ => none

def parse? (s : List Char) : Option (List Nat) := do
  let (gs, gap) ←
    match s with
    | ':' :: ':' :: r => groups? [0] (some 1) 7 r
    | ':' :: _ => none
    | [] => none
    | s => groups? [] none 8 s
  match gap with
  | some g => pure (gs.take g ++ List.replicate (8 - gs.length) 0 ++ gs.drop g)
  | none => if gs.length = 8 then pure gs else none

/-- The length of the run of zero groups at the front. -/
def zeroRun (gs : List Nat) : Nat := (gs.takeWhile (· == 0)).length

/-- The place and length of the first longest run of zero groups. -/
def longestRun : Nat → List Nat → Nat × Nat
  | i, [] => (i, 0)
  | i, g :: gs =>
    let here := zeroRun (g :: gs)
    let (j, n) := longestRun (i + 1) gs
    if here ≥ n then (i, here) else (j, n)

def renderGroup (n : Nat) : List Char := Nat.toDigits 16 n

def render (gs : List Nat) : List Char :=
  let join (l : List Nat) := (List.intercalate [':'] (l.map renderGroup))
  let (i, n) := longestRun 0 gs
  '[' :: (if n < 2 then join gs else join (gs.take i) ++ "::".toList ++ join (gs.drop (i + n))) ++
    [']']

end FetchPlan.Url.Ipv6
