/-!
Punycode: a text as basic characters of ASCII, followed by digits that say where the other
characters go. The numbers are written with digits of base 36 whose thresholds adapt to the
numbers before.
-/
namespace FetchPlan.Url.Punycode

def digitChar (d : Nat) : Char := if d < 26 then Char.ofNat (97 + d) else Char.ofNat (22 + d)

def digitValue (c : Char) : Option Nat :=
  let n := c.toNat
  if 48 ≤ n ∧ n ≤ 57 then some (n - 22)
  else if 65 ≤ n ∧ n ≤ 90 then some (n - 65)
  else if 97 ≤ n ∧ n ≤ 122 then some (n - 97)
  else none

/-- Scales a number down for the bias, counting the steps by 36. -/
def scaleBias (delta k : Nat) : Nat :=
  if 455 < delta then scaleBias (delta / 35) (k + 36) else k + 36 * delta / (delta + 38)

/-- The bias after a number, with `count` characters placed so far. -/
def adapt (delta count : Nat) (first : Bool) : Nat :=
  let delta := if first then delta / 700 else delta / 2
  scaleBias (delta + delta / count) 0

/-- The threshold of the digit at position `k`, which goes up by 36. -/
def threshold (k bias : Nat) : Nat := min 26 (max 1 (k - bias))

def digits (q k bias : Nat) : List Char :=
  if q < threshold k bias then [digitChar q]
  else
    digitChar (threshold k bias + (q - threshold k bias) % (36 - threshold k bias)) ::
      digits ((q - threshold k bias) / (36 - threshold k bias)) (k + 36) bias
  termination_by q
  decreasing_by
    have h : 1 ≤ threshold k bias := by unfold threshold; omega
    exact Nat.lt_of_le_of_lt (Nat.div_le_self _ _) (by omega)

structure Encoder where
  delta : Nat
  bias : Nat
  placed : Nat
  out : List Char

/-- Walks the text once for the code point `m`: smaller characters add to the next number, and each
occurrence of `m` writes it. -/
def encodePoint (basic m : Nat) (e : Encoder) (s : List Char) : Encoder :=
  s.foldl (fun e c =>
    if c.toNat < m then { e with delta := e.delta + 1 }
    else if c.toNat = m then
      ⟨0, adapt e.delta (e.placed + 1) (e.placed == basic), e.placed + 1,
        e.out ++ digits e.delta 36 e.bias⟩
    else e) e

def encode (s : List Char) : List Char :=
  let basic := s.filter (·.toNat < 128)
  let points := ((s.map Char.toNat).filter (128 ≤ ·)).mergeSort.eraseDups
  let start : Encoder := ⟨0, 72, basic.length, if basic = [] then [] else basic ++ ['-']⟩
  (points.foldl (fun (e, n) m =>
    let e := encodePoint basic.length m { e with delta := e.delta + (m - n) * (e.placed + 1) } s
    ({ e with delta := e.delta + 1 }, m + 1)) (start, 128)).1.out

def scalar? (n : Nat) : Option Char := if n.isValidChar then some (Char.ofNat n) else none

/-- Reads the digits after the basic characters. `start` is the place where the number that is
being read began and `i` the one it has reached; `weight` and `k` belong to its next digit; `n` is
the code point before it. -/
def decodeDigits (start i weight k n bias : Nat) (out : List Char) : List Char → Option (List Char)
  | [] => if k = 36 then some out else none
  | c :: r => do
    let d ← digitValue c
    let i := i + d * weight
    let t := threshold k bias
    if d < t then
      let count := out.length + 1
      let n := n + i / count
      let place := i % count
      let x ← scalar? n
      decodeDigits (place + 1) (place + 1) 1 36 n (adapt (i - start) count (start == 0))
        (out.take place ++ x :: out.drop place) r
    else decodeDigits start i (weight * (36 - t)) (k + 36) n bias out r

/-- The parts before and after the last hyphen; without a hyphen there are no basic characters. -/
def splitBasic (s : List Char) : List Char × List Char :=
  let tail := (s.reverse.takeWhile (· ≠ '-')).reverse
  ((s.take (s.length - tail.length)).dropLast, tail)

def decode (s : List Char) : Option (List Char) :=
  let (basic, tail) := splitBasic s
  if basic.all (·.toNat < 128) then decodeDigits 0 0 1 36 128 72 basic tail else none

end FetchPlan.Url.Punycode
