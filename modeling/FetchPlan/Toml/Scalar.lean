import FetchPlan.Text.Pieces
import FetchPlan.Text.Percent
import FetchPlan.Toml.Value

/-!
Scalars that stand without quotes: truth values, integers, decimals, dates and times. Each reader
takes the whole word.
-/
namespace FetchPlan.Toml.Scalar

/-- Digits with single underscores between them; the underscores are dropped. -/
def digits? (isDigit : Char → Bool) : List Char → Option (List Char)
  | [] => none
  | [c] => if isDigit c then some [c] else none
  | c :: '_' :: r => if isDigit c then (digits? isDigit r).map (c :: ·) else none
  | c :: d :: r => if isDigit c then (digits? isDigit (d :: r)).map (c :: ·) else none

def natOf (base : Nat) (s : List Char) : Nat :=
  s.foldl (fun n c => base * n + (Text.hexValue c).getD 0) 0

/-- A sign, `true` for minus, and the rest. -/
def splitSign : List Char → Bool × List Char
  | '-' :: r => (true, r)
  | '+' :: r => (false, r)
  | s => (false, s)

/-- Decimal digits of which a leading zero stands alone. -/
def decimalDigits? (s : List Char) : Option (List Char) := do
  let ds ← digits? Char.isDigit s
  if ds.head? = some '0' ∧ ds.length > 1 then none else some ds

/-- The digits of one base after its two-letter mark. -/
def based? (base : Nat) (s : List Char) : Option Int :=
  (digits? (fun c => (Text.hexValue c).any (· < base)) s).map fun ds => Int.ofNat (natOf base ds)

def unboundedInteger? : List Char → Option Int
  | '0' :: 'x' :: r => based? 16 r
  | '0' :: 'o' :: r => based? 8 r
  | '0' :: 'b' :: r => based? 2 r
  | s => do
    let (negative, s) := splitSign s
    let ds ← decimalDigits? s
    let n := Int.ofNat (natOf 10 ds)
    pure (if negative then -n else n)

def integerLimit : Int := 0x8000000000000000

def integer? (s : List Char) : Option Int := do
  let n ← unboundedInteger? s
  if -integerLimit ≤ n ∧ n < integerLimit then some n else none

/-- Whether a decimal is below the bound from which on it would round to infinity. -/
def inRange (digits : Nat) (exponent : Int) : Bool :=
  let magnitude := (Nat.toDigits 10 digits).length + exponent
  digits = 0 || magnitude < 300 ||
    (magnitude < 320 &&
      (let bound := (Nat.pow 2 54 - 1) * Nat.pow 2 970
       digits * Nat.pow 10 exponent.toNat < bound * Nat.pow 10 (-exponent).toNat))

def exponent? (s : List Char) : Option Int := do
  let (negative, s) := splitSign s
  let ds ← digits? Char.isDigit s
  let n := Int.ofNat (natOf 10 ds)
  pure (if negative then -n else n)

/-- A decimal: a fraction or an exponent or both after decimal digits, or one of the special words.
-/
def decimal? (s : List Char) : Option Decimal := do
  let (negative, s) := splitSign s
  if s = "inf".toList then return .infinite negative
  if s = "nan".toList then return .notANumber
  let isLetter (c : Char) := c == 'e' || c == 'E'
  let (mantissa, exponent) ← match Text.cut isLetter s with
    | some (m, e) => (exponent? e).map fun e => (m, some e)
    | none => some (s, none)
  let (whole, fraction) ← match Text.cut (· == '.') mantissa with
    | some (w, f) => do pure (← decimalDigits? w, some (← digits? Char.isDigit f))
    | none => do pure (← decimalDigits? mantissa, none)
  if exponent.isNone ∧ fraction.isNone then none
  let ds := whole ++ fraction.getD []
  let value := natOf 10 ds
  let exponent := exponent.getD 0 - (fraction.getD []).length
  if inRange value exponent then some (.finite negative value exponent) else none

/-- A number of exactly `count` digits in a range, and the rest. -/
def field? (count low high : Nat) (s : List Char) : Option (Nat × List Char) :=
  let ds := s.take count
  let n := natOf 10 ds
  if ds.length = count ∧ ds.all Char.isDigit ∧ low ≤ n ∧ n ≤ high
    then some (n, s.drop count) else none

def daysOfMonth (year month : Nat) : Nat :=
  if month = 2 then
    if year % 4 = 0 ∧ (year % 100 ≠ 0 ∨ year % 400 = 0) then 29 else 28
  else if month = 4 ∨ month = 6 ∨ month = 9 ∨ month = 11 then 30
  else 31

def date? (s : List Char) : Option (List Char) := do
  let (year, s) ← field? 4 0 9999 s
  let '-' :: s := s | none
  let (month, s) ← field? 2 1 12 s
  let '-' :: s := s | none
  let (_, s) ← field? 2 1 (daysOfMonth year month) s
  pure s

def secondFraction? : List Char → Option (List Char)
  | '.' :: s =>
    if (s.head?.any Char.isDigit) then some (s.dropWhile Char.isDigit) else none
  | s => some s

def time? (s : List Char) : Option (List Char) := do
  let (_, s) ← field? 2 0 23 s
  let ':' :: s := s | none
  let (_, s) ← field? 2 0 59 s
  match s with
  | ':' :: s => do
    let (_, s) ← field? 2 0 60 s
    secondFraction? s
  | s => pure s

/-- Whether the text is nothing, or the distance from universal time. -/
def isOffset : List Char → Bool
  | [] => true
  | ['Z'] => true
  | ['z'] => true
  | c :: s => (c == '+' || c == '-') &&
    ((do
      let (_, s) ← field? 2 0 23 s
      let ':' :: s := s | none
      let (_, s) ← field? 2 0 59 s
      pure s) == some [])

/-- Whether the text is a date, a time, or both with or without an offset. -/
def isDateTime (s : List Char) : Bool :=
  match date? s with
  | some [] => true
  | some (c :: r) => (c == 'T' || c == 't' || c == ' ') && ((time? r).any isOffset)
  | none => time? s == some []

def ofWord? (s : List Char) : Option Scalar :=
  if s = "true".toList then some (.boolean true)
  else if s = "false".toList then some (.boolean false)
  else match integer? s with
    | some n => some (.integer n)
    | none =>
      match decimal? s with
      | some d => some (.float d)
      | none => if isDateTime s then some (.dateTime (String.ofList s)) else none

end FetchPlan.Toml.Scalar
