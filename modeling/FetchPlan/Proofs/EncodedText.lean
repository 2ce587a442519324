import FetchPlan.Text.Percent

/-!
Reading what was encoded. The bytes of a character are read as that character whatever follows
them (`scalars_utf8EncodeChar`), so a text comes back from its bytes (`decode?_utf8`); and the
bytes come back from their percent-encoded form (`percentDecode_percentEncodeBytes`), in which no
character stands that is neither allowed nor part of an encoded byte (`not_mem_percentEncode`) and
which is no shorter than the text (`length_le_percentEncode`).
-/
namespace FetchPlan.Text

/-! ## Bytes of a text -/

theorem toNat_ofNat_of_lt {n : Nat} (h : n < 256) : (UInt8.ofNat n).toNat = n := by
  rw [UInt8.toNat_ofNat']
  omega

theorem continued_cons {lo hi k : Nat} (hlo : lo ≤ k % 64 + 0x80) (hhi : k % 64 + 0x80 ≤ hi)
    (value : Nat) (ranges : List (Nat × Nat)) (bs : List UInt8) :
    continued value ((lo, hi) :: ranges) (UInt8.ofNat (k % 64 + 0x80) :: bs) =
      continued (value * 64 + k % 64) ranges bs := by
  have hb : (UInt8.ofNat (k % 64 + 0x80)).toNat = k % 64 + 0x80 := toNat_ofNat_of_lt (by omega)
  rw [continued, hb, if_pos ⟨hlo, hhi⟩, Nat.add_sub_cancel]

section

variable (c : Char) (bs : List UInt8)

theorem firstScalar_one (h : c.toNat ≤ 0x7F) :
    firstScalar (UInt8.ofNat c.toNat) bs = (some c, bs) := by
  have hb : (UInt8.ofNat c.toNat).toNat = c.toNat := toNat_ofNat_of_lt (by omega)
  unfold firstScalar
  simp only [hb, show c.toNat < 0x80 by omega, if_true, Char.ofNat_toNat]

theorem firstScalar_two (h : 0x7F < c.toNat) (h' : c.toNat ≤ 0x7FF) :
    firstScalar (UInt8.ofNat (c.toNat / 64 % 32 + 0xC0)) (UInt8.ofNat (c.toNat % 64 + 0x80) :: bs) =
      (some c, bs) := by
  generalize hn : c.toNat / 64 % 32 + 0xC0 = n
  have hb : (UInt8.ofNat n).toNat = n := toNat_ofNat_of_lt (by omega)
  have hvalue : (n - 0xC0) * 64 + c.toNat % 64 = c.toNat := by omega
  unfold firstScalar
  simp only [hb]
  rw [if_neg (by omega), if_neg (by omega), if_pos (by omega), continued_cons (by omega) (by omega),
    continued, hvalue, Char.ofNat_toNat]

theorem firstScalar_three (h : 0x7FF < c.toNat) (h' : c.toNat ≤ 0xFFFF) :
    firstScalar (UInt8.ofNat (c.toNat / 4096 % 16 + 0xE0))
      (UInt8.ofNat (c.toNat / 64 % 64 + 0x80) ::
      UInt8.ofNat (c.toNat % 64 + 0x80) :: bs) = (some c, bs) := by
  have hvalid : c.toNat < 0xD800 ∨ 0xDFFF < c.toNat ∧ c.toNat < 0x110000 := c.valid
  generalize hn : c.toNat / 4096 % 16 + 0xE0 = n
  have hb : (UInt8.ofNat n).toNat = n := toNat_ofNat_of_lt (by omega)
  have hvalue : ((n - 0xE0) * 64 + c.toNat / 64 % 64) * 64 + c.toNat % 64 = c.toNat := by omega
  unfold firstScalar
  simp only [hb]
  rw [if_neg (by omega), if_neg (by omega), if_neg (by omega)]
  -- the second byte is held to a narrower range after two of the first bytes
  by_cases h0 : n = 0xE0
  · rw [if_pos h0, continued_cons (by omega) (by omega),
      continued_cons (by omega) (by omega), continued]
    rw [h0] at hvalue
    simp only [hvalue, Char.ofNat_toNat]
  by_cases hD : n = 0xED
  · rw [if_neg h0, if_pos hD, continued_cons (by omega) (by omega),
      continued_cons (by omega) (by omega), continued]
    rw [hD] at hvalue
    simp only [hvalue, Char.ofNat_toNat]
  · rw [if_neg h0, if_neg hD, if_pos (by omega), continued_cons (by omega) (by omega),
      continued_cons (by omega) (by omega), continued, hvalue, Char.ofNat_toNat]

theorem firstScalar_four (h : 0xFFFF < c.toNat) :
    firstScalar (UInt8.ofNat (c.toNat / 262144 % 8 + 0xF0))
      (UInt8.ofNat (c.toNat / 4096 % 64 + 0x80) :: UInt8.ofNat (c.toNat / 64 % 64 + 0x80) ::
        UInt8.ofNat (c.toNat % 64 + 0x80) :: bs) = (some c, bs) := by
  have hvalid : c.toNat < 0xD800 ∨ 0xDFFF < c.toNat ∧ c.toNat < 0x110000 := c.valid
  generalize hn : c.toNat / 262144 % 8 + 0xF0 = n
  have hb : (UInt8.ofNat n).toNat = n := toNat_ofNat_of_lt (by omega)
  have hvalue :
      (((n - 0xF0) * 64 + c.toNat / 4096 % 64) * 64 + c.toNat / 64 % 64) * 64 + c.toNat % 64 =
      c.toNat := by omega
  unfold firstScalar
  simp only [hb]
  rw [if_neg (by omega), if_neg (by omega), if_neg (by omega), if_neg (by omega), if_neg (by omega),
    if_neg (by omega)]
  by_cases h0 : n = 0xF0
  · rw [if_pos h0, continued_cons (by omega) (by omega), continued_cons (by omega) (by omega),
      continued_cons (by omega) (by omega), continued]
    rw [h0] at hvalue
    simp only [hvalue, Char.ofNat_toNat]
  by_cases h4 : n = 0xF4
  · rw [if_neg h0, if_neg (by omega), if_pos h4, continued_cons (by omega) (by omega),
      continued_cons (by omega) (by omega), continued_cons (by omega) (by omega), continued]
    rw [h4] at hvalue
    simp only [hvalue, Char.ofNat_toNat]
  · rw [if_neg h0, if_pos (by omega), continued_cons (by omega) (by omega),
      continued_cons (by omega) (by omega), continued_cons (by omega) (by omega), continued, hvalue,
      Char.ofNat_toNat]

/-- The bytes of a character are read as that character, whatever follows them. -/
theorem scalars_utf8EncodeChar :
    scalars (String.utf8EncodeChar c ++ bs) = some c :: scalars bs := by
  unfold String.utf8EncodeChar
  simp only [Char.toNat_val]
  split
  · next h => rw [List.singleton_append, scalars, firstScalar_one c bs h]
  split
  · next h h' =>
    simp only [List.cons_append, List.nil_append]
    rw [scalars, firstScalar_two c bs (by omega) h']
  split
  · next h h' =>
    simp only [List.cons_append, List.nil_append]
    rw [scalars, firstScalar_three c bs (by omega) h']
  · next h =>
    simp only [List.cons_append, List.nil_append]
    rw [scalars, firstScalar_four c bs (by omega)]

end

theorem scalars_utf8 : ∀ s : List Char, scalars (utf8 s) = s.map some
  | [] => by simp [utf8, scalars]
  | c :: s => by
    have ih := scalars_utf8 s
    rw [utf8] at ih ⊢
    rw [List.flatMap_cons, scalars_utf8EncodeChar, ih, List.map_cons]

theorem decode?_utf8 (s : List Char) : decode? (utf8 s) = some s := by
  rw [decode?, scalars_utf8]
  induction s with
  | nil => rfl
  | cons c s ih => rw [List.map_cons, List.mapM_cons, ih]; rfl

/-! ## Percent-encoding -/

theorem utf8EncodeChar_ofNat : ∀ n : Nat, n < 0x80 →
    String.utf8EncodeChar (Char.ofNat n) = [UInt8.ofNat n] := by decide

theorem percentDecode_cons {c : Char} (hc : c ≠ '%') (r : List Char) :
    percentDecode (c :: r) = String.utf8EncodeChar c ++ percentDecode r := by
  rw [percentDecode]
  rintro a b s rfl
  exact absurd rfl hc

/-- Decoding undoes encoding, if the sign that begins an encoded byte is never written as itself. -/
theorem percentDecode_percentEncodeBytes {keep : Char → Bool} (hkeep : keep '%' = false) :
    ∀ bs : List UInt8, percentDecode (percentEncodeBytes keep bs) = bs
  | [] => rfl
  | b :: bs => by
    have ih := percentDecode_percentEncodeBytes hkeep bs
    unfold percentEncodeBytes at ih ⊢
    rw [List.flatMap_cons]
    by_cases hb : b.toNat < 0x80 ∧ keep (Char.ofNat b.toNat) = true
    · have hc : Char.ofNat b.toNat ≠ '%' := by
        intro h
        rw [h, hkeep] at hb
        cases hb.2
      simp only [hb, decide_true, Bool.and_true, if_true, List.singleton_append]
      rw [percentDecode_cons hc, utf8EncodeChar_ofNat _ hb.1, ih, UInt8.ofNat_toNat,
        List.singleton_append]
    · have hb : (decide (b.toNat < 0x80) && keep (Char.ofNat b.toNat)) = false := by simpa using hb
      simp only [hb, Bool.false_eq_true, if_false]
      rw [percentDecode_percentByte, ih]

/-- No character is written that is neither allowed nor part of an encoded byte. -/
theorem not_mem_percentEncode {keep : Char → Bool} {x : Char} (hkeep : keep x = false)
    (hsign : x ≠ '%') (hdigit : hexValue x = none) (s : List Char) : x ∉ percentEncode keep s := by
  intro hx
  obtain ⟨b, -, hb⟩ := List.mem_flatMap.1 hx
  by_cases hk : (decide (b.toNat < 0x80) && keep (Char.ofNat b.toNat)) = true
  · simp only [hk, if_true, List.mem_singleton] at hb
    rw [hb] at hkeep
    simp [hkeep] at hk
  · have hlt : b.toNat < 256 := b.toNat_lt
    have hb : x ∈ percentByte b := by simpa [hk] using hb
    simp only [percentByte, List.mem_cons, List.not_mem_nil, or_false] at hb
    rcases hb with rfl | rfl | rfl
    · exact hsign rfl
    · rw [hexValue_hexDigit _ (by omega)] at hdigit
      cases hdigit
    · rw [hexValue_hexDigit _ (by omega)] at hdigit
      cases hdigit

theorem decode?_percentEncode {keep : Char → Bool} (hkeep : keep '%' = false) (s : List Char) :
    decode? (percentDecode (percentEncode keep s)) = some s := by
  rw [percentEncode, percentDecode_percentEncodeBytes hkeep, decode?_utf8]

theorem length_le_flatMap {α β : Type} {f : α → List β} (hf : ∀ x, 0 < (f x).length) :
    ∀ xs : List α,
    xs.length ≤ (xs.flatMap f).length
  | [] => Nat.le_refl 0
  | x :: xs => by
    have ih := length_le_flatMap hf xs
    have hx := hf x
    rw [List.flatMap_cons, List.length_append, List.length_cons]
    omega

theorem length_le_percentEncode (keep : Char → Bool) (s : List Char) :
    s.length ≤ (percentEncode keep s).length := by
  have hchar (c : Char) : 0 < (String.utf8EncodeChar c).length := by
    rw [String.length_utf8EncodeChar]
    exact c.utf8Size_pos
  have hbyte (b : UInt8) : 0 < (percentEncodeBytes keep [b]).length := by
    rw [percentEncodeBytes, List.flatMap_singleton]
    by_cases hb : (decide (b.toNat < 0x80) && keep (Char.ofNat b.toNat)) = true
    · simp only [hb, if_true, List.length_singleton, Nat.zero_lt_one]
    · simp only [hb, Bool.false_eq_true, if_false]
      exact Nat.succ_pos _
  calc s.length ≤ (utf8 s).length := length_le_flatMap hchar s
    _ ≤ ((utf8 s).flatMap fun b => percentEncodeBytes keep [b]).length := length_le_flatMap hbyte _
    _ = (percentEncode keep s).length := by
      simp only [percentEncode, percentEncodeBytes, List.flatMap_singleton]

end FetchPlan.Text
