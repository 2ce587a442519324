import FetchPlan.Unicode.CompositionData

/-!
The composed normal form of a text: every composite is taken apart, marks that follow one character
are put in the order of their combining classes, and neighbours are put together again where a
composite of them exists.
-/
namespace FetchPlan.Unicode.Composition

/-- The combining class of a code point; zero for one that is no mark. -/
def classOf (n : Nat) : Nat :=
  if n < 0x300 then 0 else ((find? classes n).bind (·.target.head?)).getD 0

def hangulParts (n : Nat) : Option (List Nat) :=
  if 0xAC00 ≤ n ∧ n < 0xAC00 + 11172 then
    let s := n - 0xAC00
    let lead := 0x1100 + s / 588
    let vowel := 0x1161 + s % 588 / 28
    some (if s % 28 = 0 then [lead, vowel] else [lead, vowel, 0x11A7 + s % 28])
  else none

def hangulCompose (a b : Nat) : Option Nat :=
  if 0x1100 ≤ a ∧ a < 0x1113 ∧ 0x1161 ≤ b ∧ b < 0x1176 then
    some (0xAC00 + ((a - 0x1100) * 21 + (b - 0x1161)) * 28)
  else if 0xAC00 ≤ a ∧ a < 0xAC00 + 11172 ∧ (a - 0xAC00) % 28 = 0 ∧ 0x11A7 < b ∧ b < 0x11C3 then
    some (a + (b - 0x11A7))
  else none

/-- The full decomposition of a code point; `depth` bounds the composites inside composites. -/
def decompose : Nat → Nat → List Nat
  | 0, n => [n]
  | depth + 1, n =>
    if n < 0xC0 then [n]
    else match hangulParts n with
      | some parts => parts
      | none =>
        match find? pairs n with
        | some r => r.target.flatMap (decompose depth)
        | none => [n]

def compose? (a b : Nat) : Option Nat :=
  (hangulCompose a b).or ((pairs.find? (·.target == [a, b])).map (·.first))

/-- Puts a mark into its place behind the text `done`, which is in reverse. -/
def insertMark (n k : Nat) : List (Nat × Nat) → List (Nat × Nat)
  | [] => [(n, k)]
  | (m, j) :: done => if j > k ∧ k > 0 then (m, j) :: insertMark n k done
    else (n, k) :: (m, j) :: done

/-- The code points with their classes, marks in canonical order. -/
def ordered (s : List Nat) : List (Nat × Nat) :=
  (s.foldl (fun done n => insertMark n (classOf n) done) []).reverse

/-- Composes the text behind a starter. `kept` holds, in reverse, the marks that did not combine,
and `last` is the class of the latest of them. -/
def composeFrom (starter : Nat) (kept : List Nat) (last : Nat) : List (Nat × Nat) → List Nat
  | [] => starter :: kept.reverse
  | (n, k) :: r =>
    let free := kept = [] ∨ last < k
    match if free then compose? starter n else none with
    | some c => composeFrom c kept last r
    | none =>
      if k = 0 then starter :: kept.reverse ++ composeFrom n [] 0 r
      else composeFrom starter (n :: kept) k r

/-- Composes a text in canonical order. -/
def composeAll : List (Nat × Nat) → List Nat
  | [] => []
  | (n, 0) :: r => composeFrom n [] 0 r
  | (n, _ + 1) :: r => n :: composeAll r

def normalize (s : List Nat) : List Nat := composeAll (ordered (s.flatMap (decompose 5)))

end FetchPlan.Unicode.Composition
