/-!
UTF-8: the bytes of a text, and the scalar values of a byte string. `scalars` reads any bytes; where
they are ill-formed it gives `none`, once for each longest part that could still have begun a
character. A strict reader (`decode?`) refuses such a part and a lossy one (`decodeLossy`) puts the
replacement character in its place.
-/
namespace FetchPlan.Text

def utf8 (s : List Char) : List UInt8 := s.flatMap String.utf8EncodeChar

/-- Reads the continuation bytes that `ranges` allows after a leading byte. -/
def continued (value : Nat) : List (Nat × Nat) → List UInt8 → Option Char × List UInt8
  | [], bs => (some (Char.ofNat value), bs)
  | _ :: _, [] => (none, [])
  | (lo, hi) :: ranges, b :: bs =>
    if lo ≤ b.toNat ∧ b.toNat ≤ hi then continued (value * 64 + (b.toNat - 0x80)) ranges bs
    else (none, b :: bs)

/-- The scalar value that starts with the byte `b`, if it is well formed, and the bytes after it. -/
def firstScalar (b : UInt8) (bs : List UInt8) : Option Char × List UInt8 :=
  let n := b.toNat
  let any := (0x80, 0xBF)
  if n < 0x80 then (some (Char.ofNat n), bs)
  else if n < 0xC2 then (none, bs)
  else if n < 0xE0 then continued (n - 0xC0) [any] bs
  else if n = 0xE0 then continued 0 [(0xA0, 0xBF), any] bs
  else if n = 0xED then continued 0xD [(0x80, 0x9F), any] bs
  else if n < 0xF0 then continued (n - 0xE0) [any, any] bs
  else if n = 0xF0 then continued 0 [(0x90, 0xBF), any, any] bs
  else if n < 0xF4 then continued (n - 0xF0) [any, any, any] bs
  else if n = 0xF4 then continued 4 [(0x80, 0x8F), any, any] bs
  else (none, bs)

theorem length_continued_le (value : Nat) : ∀ (ranges : List (Nat × Nat)) (bs : List UInt8),
    (continued value ranges bs).2.length ≤ bs.length
  | [], bs => by simp [continued]
  | _ :: _, [] => by simp [continued]
  | (lo, hi) :: ranges, b :: bs => by
    unfold continued
    split
    · have := length_continued_le (value * 64 + (b.toNat - 0x80)) ranges bs
      simp only [List.length_cons]; omega
    · simp

theorem length_firstScalar_le (b : UInt8) (bs : List UInt8) :
    (firstScalar b bs).2.length ≤ bs.length := by
  unfold firstScalar
  simp only
  repeat' split
  all_goals first | exact Nat.le_refl _ | exact length_continued_le _ _ _

/-- The scalar values of a byte string; `none` for each ill-formed part. -/
def scalars : List UInt8 → List (Option Char)
  | [] => []
  | b :: bs =>
    have := length_firstScalar_le b bs
    (firstScalar b bs).1 :: scalars (firstScalar b bs).2
  termination_by bs => bs.length
  decreasing_by simp only [List.length_cons]; omega

/-- The text of well-formed bytes. -/
def decode? (bs : List UInt8) : Option (List Char) := (scalars bs).mapM id

/-- The text of any bytes, with U+FFFD for each ill-formed part. -/
def decodeLossy (bs : List UInt8) : List Char := (scalars bs).map (·.getD '\uFFFD')

end FetchPlan.Text
