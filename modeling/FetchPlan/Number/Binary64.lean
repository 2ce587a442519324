/-!
Binary floating point of 64 bits, in whole numbers: the number nearest to a decimal, and the
shortest decimal that is nearest to a number. A finite number is `mantissa * 2 ^ exponent`; its
neighbours lie one unit of the mantissa away, so the decimals that round to it are those within
half a unit.

Only finite numbers that are not negative are here; signs, infinities and numbers that are none
are dealt with where texts are read and written.
-/
namespace FetchPlan

/-- A positive number or zero, as `mantissa * 2 ^ exponent`. -/
structure Binary64 where
  mantissa : Nat
  exponent : Int
  deriving DecidableEq, Repr

namespace Binary64

def minExponent : Int := -1074

/-- The quotient rounded to the nearest whole number, a half to the even one. -/
def roundDiv (n d : Nat) : Nat :=
  let k := n / d
  let twice := 2 * (n % d)
  if d < twice ∨ (twice = d ∧ k % 2 = 1) then k + 1 else k

/-- The largest `k` with `base ^ k ≤ n / d`, from an estimate that is at most one too large. -/
def floorLog (base n d : Nat) (estimate : Int) : Int :=
  if d * Nat.pow base estimate.toNat ≤ n * Nat.pow base (-estimate).toNat then estimate
  else estimate - 1

def width (n : Nat) : Nat := (Nat.toDigits 10 n).length

/-- The number nearest to the fraction `n / d`. -/
def ofFraction (n d : Nat) : Binary64 :=
  if n = 0 then ⟨0, minExponent⟩
  else
    let q := max (floorLog 2 n d ((n.log2 : Int) - d.log2) - 52) minExponent
    ⟨roundDiv (n * Nat.pow 2 (-q).toNat) (d * Nat.pow 2 q.toNat), q⟩

/-- The number nearest to `digits * 10 ^ exponent`; what is far below the smallest number is zero.
-/
def ofDecimal (digits : Nat) (exponent : Int) : Binary64 :=
  if digits = 0 ∨ width digits + exponent < -330 then ⟨0, minExponent⟩
  else ofFraction (digits * Nat.pow 10 exponent.toNat) (Nat.pow 10 (-exponent).toNat)

/-- The point of the grid of multiples of `10 ^ k` that rounds to the number and is nearest to it.
-/
def onGrid? (x : Binary64) (k : Int) : Option Nat :=
  let quarter := x.exponent - 2
  let up := Nat.pow 10 k.toNat * Nat.pow 2 (-quarter).toNat
  let down := Nat.pow 2 quarter.toNat * Nat.pow 10 (-k).toNat
  let value := 4 * x.mantissa * down
  let below := if x.mantissa = Nat.pow 2 52 ∧ minExponent < x.exponent then 1 else 2
  let low := (4 * x.mantissa - below) * down
  let high := (4 * x.mantissa + 2) * down
  let rounds (a : Nat) : Bool :=
    if x.mantissa % 2 = 0 then low ≤ a * up && a * up ≤ high else low < a * up && a * up < high
  let a := value / up
  if rounds a then
    if rounds (a + 1) ∧ (2 * a + 1) * up < 2 * value then some (a + 1) else some a
  else if rounds (a + 1) then some (a + 1)
  else none

/-- The shortest decimal that rounds to the number, as digits and a power of ten. Seventeen digits
always suffice. -/
def shortest (x : Binary64) : Nat × Int :=
  let n := x.mantissa * Nat.pow 2 x.exponent.toNat
  let d := Nat.pow 2 (-x.exponent).toNat
  let lead := floorLog 10 n d ((width n : Int) - width d)
  let hit := (List.range 17).findSome? fun (count : Nat) =>
    (x.onGrid? (lead - count)).map fun a => (a, lead - (count : Int))
  hit.getD (0, 0)

/-- The text of `digits * 10 ^ exponent` without an exponent and with at least one digit on either
side of the point. -/
def positional (digits : Nat) (exponent : Int) : String :=
  let ds := ((Nat.toDigits 10 digits).reverse.dropWhile (· == '0')).reverse
  let exponent := exponent + (width digits - ds.length : Nat)
  let text :=
    if ds = [] then "0.0".toList
    else if 0 ≤ exponent then ds ++ List.replicate exponent.toNat '0' ++ ['.', '0']
    else
      let places := (-exponent).toNat
      let ds := List.replicate (places + 1 - ds.length) '0' ++ ds
      ds.take (ds.length - places) ++ '.' :: ds.drop (ds.length - places)
  String.ofList text

def text (x : Binary64) : String :=
  if x.mantissa = 0 then "0.0" else positional x.shortest.1 x.shortest.2

end Binary64
end FetchPlan
