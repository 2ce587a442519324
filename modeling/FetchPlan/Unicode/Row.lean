import FetchPlan.Text.Pieces
import FetchPlan.Text.Percent

/-!
Rows of Unicode tables. A table is written as a text of words in hexadecimal: `a` is one code point,
`a-b` a range, and `a/b` every second code point of a range; after a colon stands the target of the
first one, of which the others keep their distance, or the parts of a target between points.
-/
namespace FetchPlan.Unicode

/-- The code points `first`, `first + step`, …, `last`, and the target of the first. -/
structure Row where
  first : Nat
  last : Nat
  step : Nat
  target : List Nat
  deriving DecidableEq, Repr

namespace Row

/-- The number that hexadecimal digits denote; other characters count as nothing. -/
def number (s : List Char) : Nat := s.foldl (fun n c => 16 * n + (Text.hexValue c).getD 0) 0

def range (s : List Char) : Row :=
  match Text.cut (· == '-') s, Text.cut (· == '/') s with
  | some (a, b), _ => ⟨number a, number b, 1, []⟩
  | none, some (a, b) => ⟨number a, number b, 2, []⟩
  | none, none => ⟨number s, number s, 1, []⟩

def ofWord (s : List Char) : Row :=
  match Text.cut (· == ':') s with
  | some (a, []) => range a
  | some (a, b) => { range a with target := (Text.fields (· == '.') b).map number }
  | none => range s

def ofText (s : String) : List Row := (Text.words s.toList).map ofWord

def holds (r : Row) (n : Nat) : Bool :=
  r.first ≤ n && n ≤ r.last && (n - r.first) % r.step == 0

def targetOf (r : Row) (n : Nat) : List Nat := r.target.map (· + (n - r.first))

end Row

def find? (table : List Row) (n : Nat) : Option Row := table.find? (·.holds n)

def isIn (table : List Row) (n : Nat) : Bool := table.any (·.holds n)

end FetchPlan.Unicode
