import FetchPlan.Text.Utf8

/-!
Texts are ordered as their bytes are. The bytes of a character differ from those of a greater one
before either of them ends, and the first byte that differs is the lesser one
(`utf8EncodeChar_append_lt`); so two texts compare like the strings of their bytes, whatever
characters they hold (`utf8_lt_iff`).
-/
namespace FetchPlan.Text

theorem ofNat_cons_lt {n m : Nat} (hn : n < 256) (hm : m < 256) (x y : List UInt8) :
    UInt8.ofNat n :: x < UInt8.ofNat m :: y ↔ n < m ∨ n = m ∧ x < y := by
  rw [List.cons_lt_cons_iff, UInt8.lt_iff_toNat_lt, ← UInt8.toNat_inj, UInt8.toNat_ofNat',
    UInt8.toNat_ofNat', Nat.mod_eq_of_lt hn, Nat.mod_eq_of_lt hm]

/-- The bytes of a character come before those of a greater one, whatever follows either. -/
theorem utf8EncodeChar_append_lt {c d : Char} (h : c < d) (x y : List UInt8) :
    String.utf8EncodeChar c ++ x < String.utf8EncodeChar d ++ y := by
  have hlt : c.toNat < d.toNat := h
  have hvalid : d.toNat < 0xD800 ∨ 0xDFFF < d.toNat ∧ d.toNat < 0x110000 := d.valid
  -- a character is given by its digits to base 64, which its bytes hold from the first to the last
  have hdigits : ∀ n : Nat, n < 0x110000 →
      n = ((n / 262144 % 8 * 64 + n / 4096 % 64) * 64 + n / 64 % 64) * 64 + n % 64 := by
    intro n hn
    omega
  have hc := hdigits c.toNat (by omega)
  have hd := hdigits d.toNat (by omega)
  unfold String.utf8EncodeChar
  simp only [Char.toNat_val]
  -- of characters with different numbers of bytes, the one with more has the greater first byte
  repeat' split
  all_goals simp (disch := omega) only [List.cons_append, List.nil_append, ofNat_cons_lt]
  all_goals omega

theorem utf8_cons (c : Char) (s : List Char) :
    utf8 (c :: s) = String.utf8EncodeChar c ++ utf8 s := List.flatMap_cons

theorem nil_lt_utf8 (c : Char) (s : List Char) : [] < utf8 (c :: s) := by
  rw [utf8_cons]
  unfold String.utf8EncodeChar
  simp only
  repeat' split
  all_goals exact List.nil_lt_cons _ _

theorem utf8_lt_of_lt : ∀ {s t : List Char}, s < t → utf8 s < utf8 t
  | s, [], h => absurd h (List.not_lt_nil s)
  | [], d :: t, _ => nil_lt_utf8 d t
  | c :: s, d :: t, h => by
    rw [utf8_cons, utf8_cons]
    rcases List.cons_lt_cons_iff.1 h with hcd | ⟨rfl, hst⟩
    · exact utf8EncodeChar_append_lt hcd _ _
    · exact List.append_left_lt (utf8_lt_of_lt hst)

/-- A text is less than another one exactly when its bytes are. -/
theorem utf8_lt_iff {s t : List Char} : utf8 s < utf8 t ↔ s < t := by
  refine ⟨fun h => Decidable.byContradiction fun hst => ?_, utf8_lt_of_lt⟩
  by_cases hts : t < s
  · exact List.lt_asymm h (utf8_lt_of_lt hts)
  · have heq : s = t := Std.Trichotomous.trichotomous s t hst hts
    rw [heq] at h
    exact List.lt_irrefl _ h

end FetchPlan.Text
