import FetchPlan.Json.Printer
import FetchPlan.Json.Reader

/-!
A written string reads back: each escaped character gives the character again, so a string between
quotes is the string and what follows it is left.
-/
namespace FetchPlan.Json

theorem hexValue_digit : ∀ n : Nat, n < 16 → Text.hexValue (hexDigit n) = some n := by decide

theorem unit?_control (n : Nat) (h : n < 32) :
    unit? '0' '0' (hexDigit (n / 16)) (hexDigit (n % 16)) = some n := by
  have h0 : Text.hexValue '0' = some 0 := by decide
  have h1 := hexValue_digit (n / 16) (by omega)
  have h2 := hexValue_digit (n % 16) (by omega)
  simp only [unit?, h0, h1, h2, Option.bind_eq_bind, Option.bind_some, Option.pure_def]
  congr 1
  omega

theorem ofUnit?_control {c : Char} (h : c.toNat < 32) : ofUnit? c.toNat = some c := by
  rw [ofUnit?, if_neg (by omega), Char.ofNat_toNat]

/-- The characters that a letter or a sign after a backslash stands for when they are written. -/
def named : List Char := ['"', '\\', '\x08', '\x0c', '\n', '\r', '\t']

/-- A control character without a name is written as its number. -/
theorem escape_control {c : Char} (hn : c ∉ named) (h : c.toNat < 32) :
    escape c = ['\\', 'u', '0', '0', hexDigit (c.toNat / 16), hexDigit (c.toNat % 16)] := by
  simp only [named, List.mem_cons, List.not_mem_nil, or_false, not_or] at hn
  simp [escape, hn, h]

theorem escape_plain {c : Char} (hn : c ∉ named) (h : ¬ c.toNat < 32) : escape c = [c] := by
  simp only [named, List.mem_cons, List.not_mem_nil, or_false, not_or] at hn
  simp [escape, hn, h]

theorem unquote?_plain {c : Char} (hn : c ∉ named) (h : ¬ c.toNat < 32) (r : List Char) :
    unquote? (c :: r) = (unquote? r).map fun (s, rest) => (c :: s, rest) := by
  simp only [named, List.mem_cons, List.not_mem_nil, or_false, not_or] at hn
  obtain ⟨hq, hb, _⟩ := hn
  rw [unquote?.eq_def]
  split
  case h_1 heq => cases heq
  case h_2 heq => exact absurd (List.cons.inj heq).1 hq
  case h_3 heq => exact absurd (List.cons.inj heq).1 hb
  case h_4 heq => exact absurd (List.cons.inj heq).1 hb
  case h_5 heq =>
    obtain ⟨rfl, rfl⟩ := List.cons.inj heq
    exact if_neg (by simp [hb, h])

/-- An escaped character gives the character again, and what follows it is read on. -/
theorem unquote?_escape (c : Char) (r : List Char) :
    unquote? (escape c ++ r) = (unquote? r).map fun (s, rest) => (c :: s, rest) := by
  by_cases hn : c ∈ named
  · simp only [named, List.mem_cons, List.not_mem_nil, or_false] at hn
    rcases hn with rfl | rfl | rfl | rfl | rfl | rfl | rfl <;> rfl
  · by_cases h : c.toNat < 32
    · rw [escape_control hn h]
      simp only [List.cons_append, List.nil_append, unquote?, unit?_control _ h, ofUnit?_control h]
    · rw [escape_plain hn h]
      exact unquote?_plain hn h r

/-- A string that is written and then read, with anything after it. -/
theorem unquote?_quote (s r : List Char) :
    unquote? (s.flatMap escape ++ '"' :: r) = some (s, r) := by
  induction s with
  | nil => rfl
  | cons c s ih => rw [List.flatMap_cons, List.append_assoc, unquote?_escape, ih]; rfl

end FetchPlan.Json
