import FetchPlan.Text.Utf8

/-!
Percent-encoding: a byte as a percent sign and two hexadecimal digits. The encoder keeps the bytes
that a given class allows; the decoder passes a percent sign that no two digits follow.
-/
namespace FetchPlan.Text

def hexDigit (n : Nat) : Char :=
  if n < 10 then Char.ofNat (0x30 + n) else Char.ofNat (0x37 + n)

def hexValue (c : Char) : Option Nat :=
  let n := c.toNat
  if 0x30 ≤ n ∧ n ≤ 0x39 then some (n - 0x30)
  else if 0x41 ≤ n ∧ n ≤ 0x46 then some (n - 0x37)
  else if 0x61 ≤ n ∧ n ≤ 0x66 then some (n - 0x57)
  else none

def percentByte (b : UInt8) : List Char :=
  ['%', hexDigit (b.toNat / 16), hexDigit (b.toNat % 16)]

/-- Writes bytes: those that `keep` allows as themselves, the others percent-encoded. -/
def percentEncodeBytes (keep : Char → Bool) (bs : List UInt8) : List Char :=
  bs.flatMap fun b =>
    let c := Char.ofNat b.toNat
    if b.toNat < 0x80 && keep c then [c] else percentByte b

/-- Writes a text: the characters of ASCII that `keep` allows as themselves, the bytes of all others
percent-encoded. -/
def percentEncode (keep : Char → Bool) (s : List Char) : List Char :=
  percentEncodeBytes keep (utf8 s)

/-- The bytes of a text, with each percent sign and two digits read as one byte. -/
def percentDecode : List Char → List UInt8
  | [] => []
  | '%' :: a :: b :: r =>
    match hexValue a, hexValue b with
    | some x, some y => UInt8.ofNat (16 * x + y) :: percentDecode r
    | _, _ => String.utf8EncodeChar '%' ++ percentDecode (a :: b :: r)
  | c :: r => String.utf8EncodeChar c ++ percentDecode r

theorem hexValue_hexDigit : ∀ n : Nat, n < 16 → hexValue (hexDigit n) = some n := by decide

theorem percentDecode_percentByte (b : UInt8) (r : List Char) :
    percentDecode (percentByte b ++ r) = b :: percentDecode r := by
  have hb : b.toNat < 256 := b.toNat_lt
  have hhi : b.toNat / 16 < 16 := by omega
  have hlo : b.toNat % 16 < 16 := by omega
  simp only [percentByte, List.cons_append, List.nil_append, percentDecode, hexValue_hexDigit _ hhi,
    hexValue_hexDigit _ hlo]
  rw [show 16 * (b.toNat / 16) + b.toNat % 16 = b.toNat by omega]
  simp

end FetchPlan.Text
