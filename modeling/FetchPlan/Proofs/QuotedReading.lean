import FetchPlan.Toml.Quoted

/-!
What is written between quotes reads back. Each of the four forms is read up to its closing quotes
and gives the text it was written from, as long as no further quote follows (`NoQuote`); so a
string reads back in the form that the writer takes (`string?_value`), and so does a key
(`oneLine?_basic` and `oneLine?_literal`). On many lines up to two quotes stand as themselves in a
row, which is why the proofs about those forms carry along the quotes that were passed last.
-/
namespace FetchPlan.Toml.Quoted

/-- What may follow a string: anything that does not begin with a quote. -/
structure NoQuote (r : List Char) : Prop where
  double : r.head? ≠ some '"'
  single : r.head? ≠ some '\''

/-! ## Characters -/

theorem isControl_toNat_lt {c : Char} (h : isControl c = true) : c.toNat < 0x80 := by
  simp only [isControl, Bool.or_eq_true, Bool.and_eq_true, decide_eq_true_eq, beq_iff_eq] at h
  omega

theorem hexChar?_control {c : Char} (h : isControl c = true) :
    hexChar? ['0', '0', Text.hexDigit (c.toNat / 16), Text.hexDigit (c.toNat % 16)] = some c := by
  have hc := isControl_toNat_lt h
  have h0 : Text.hexValue '0' = some 0 := by decide
  have h1 := Text.hexValue_hexDigit (c.toNat / 16) (by omega)
  have h2 := Text.hexValue_hexDigit (c.toNat % 16) (by omega)
  have hn : 16 * (c.toNat / 16) + c.toNat % 16 = c.toNat := by omega
  have hlow : ¬ 0xD800 ≤ c.toNat := by omega
  simp [hexChar?, List.foldlM, h0, h1, h2, hn, hlow, Char.ofNat_toNat]

def named : List Char := ['\x08', '\t', '\n', '\x0c', '\r', '\\']

/-- A character is written with a letter of its own, with its number, or as itself. -/
theorem escapeChar_cases (lines : Bool) (c : Char) : c ∈ named ∨
    (isControl c = true ∧ escapeChar lines c =
      ['\\', 'u', '0', '0', Text.hexDigit (c.toNat / 16), Text.hexDigit (c.toNat % 16)]) ∨
    (isControl c = false ∧ c ≠ '\\' ∧ escapeChar lines c = [c]) := by
  by_cases hn : c ∈ named
  · exact .inl hn
  simp only [named, List.mem_cons, List.not_mem_nil, or_false, not_or] at hn
  cases h : isControl c with
  | true => exact .inr (.inl ⟨rfl, by simp [escapeChar, hn, h]⟩)
  | false => exact .inr (.inr ⟨rfl, by simp [hn], by simp [escapeChar, hn, h]⟩)

/-! ## One line -/

theorem basic?_plain {c : Char} (hq : c ≠ '"') (hb : c ≠ '\\') (h : isControl c = false)
    (r : List Char) : basic? (c :: r) = push c (basic? r) := by
  rw [basic?.eq_def]
  split <;> simp_all

theorem basic?_escapeChar {c : Char} (hq : c ≠ '"') (r : List Char) :
    basic? (escapeChar false c ++ r) = push c (basic? r) := by
  rcases escapeChar_cases false c with hn | ⟨h, he⟩ | ⟨h, hb, he⟩
  · simp only [named, List.mem_cons, List.not_mem_nil, or_false] at hn
    rcases hn with rfl | rfl | rfl | rfl | rfl | rfl <;> rfl
  · have hx : basic? ('\\' :: 'u' :: '0' :: '0' :: Text.hexDigit (c.toNat / 16) ::
        Text.hexDigit (c.toNat % 16) :: r) = (hexChar? ['0', '0', Text.hexDigit (c.toNat / 16),
        Text.hexDigit (c.toNat % 16)]).bind fun x => push x (basic? r) := rfl
    rw [hexChar?_control h] at hx
    rw [he]
    exact hx
  · rw [he]
    exact basic?_plain hq hb h r

theorem escape_quote (lines : Bool) (s : List Char) :
    escape lines 0 ('"' :: s) = '\\' :: '"' :: escape lines (if lines then 2 else 0) s := rfl

theorem escape_char {lines : Bool} {room : Nat} {c : Char} (hc : c ≠ '"') (s : List Char) :
    escape lines room (c :: s) = escapeChar lines c ++ escape lines (if lines then 2 else 0) s := by
  rw [escape.eq_def]
  split <;> simp_all

theorem basic?_escape (r : List Char) : ∀ s : List Char,
    basic? (escape false 0 s ++ '"' :: r) = some (s, r)
  | [] => rfl
  | c :: s => by
    have ih := basic?_escape r s
    by_cases hc : c = '"'
    · subst hc
      rw [escape_quote]
      show push '"' (basic? (escape false 0 s ++ '"' :: r)) = _
      rw [ih]
      rfl
    · rw [escape_char hc, List.append_assoc, basic?_escapeChar hc]
      show push c (basic? (escape false 0 s ++ '"' :: r)) = _
      rw [ih]
      rfl

theorem oneLine?_basic (s r : List Char) : oneLine? (basic s ++ r) = some (s, r) := by
  have h := basic?_escape r s
  simpa [basic, oneLine?] using h

theorem literal?_text {r : List Char} :
    ∀ {s : List Char}, (∀ c ∈ s, isControl c = false ∧ c ≠ '\'') →
    literal? (s ++ '\'' :: r) = some (s, r)
  | [], _ => rfl
  | c :: s, h => by
    obtain ⟨hc, hq⟩ := h c List.mem_cons_self
    have ih := literal?_text (r := r) fun d hd => h d (List.mem_cons_of_mem c hd)
    rw [List.cons_append, literal?.eq_def]
    split
    · next heq => cases heq
    · next heq => exact absurd (List.cons.inj heq).1 hq
    · next heq =>
      obtain ⟨rfl, rfl⟩ := List.cons.inj heq
      rw [if_neg (by simp [hc]), ih]
      rfl

theorem oneLine?_literal {s : List Char} (h : ∀ c ∈ s, isControl c = false ∧ c ≠ '\'')
    (r : List Char) : oneLine? (literal s ++ r) = some (s, r) := by
  have := literal?_text (r := r) h
  simpa [literal, oneLine?] using this

/-! ## Many lines -/

theorem basicLines?_plain {c : Char} {r : List Char} (hq : c = '"' → ∀ r', r ≠ '"' :: '"' :: r')
    (hb : c ≠ '\\') (h : isControl c = false) :
    basicLines? .text (c :: r) = push c (basicLines? .text r) := by
  have hn : c ≠ '\n' := by
    rintro rfl
    cases h
  have hr : c ≠ '\r' := by
    rintro rfl
    cases h
  rw [basicLines?.eq_def]
  split <;> simp_all

theorem basicLines?_escapeChar {c : Char} (hq : c ≠ '"') (r : List Char) :
    basicLines? .text (escapeChar true c ++ r) = push c (basicLines? .text r) := by
  rcases escapeChar_cases true c with hn | ⟨h, he⟩ | ⟨h, hb, he⟩
  · simp only [named, List.mem_cons, List.not_mem_nil, or_false] at hn
    rcases hn with rfl | rfl | rfl | rfl | rfl | rfl <;> rfl
  · have hx : basicLines? .text ('\\' :: 'u' :: '0' :: '0' :: Text.hexDigit (c.toNat / 16) ::
        Text.hexDigit (c.toNat % 16) :: r) = (hexChar? ['0', '0', Text.hexDigit (c.toNat / 16),
        Text.hexDigit (c.toNat % 16)]).bind fun x => push x (basicLines? .text r) := rfl
    rw [hexChar?_control h] at hx
    rw [he]
    exact hx
  · rw [he]
    exact basicLines?_plain (fun h => absurd h hq) hb h

theorem head?_escapeChar {lines : Bool} {c : Char} (hq : c ≠ '"') (r : List Char) :
    (escapeChar lines c ++ r).head? ≠ some '"' := by
  rcases escapeChar_cases lines c with hn | ⟨-, he⟩ | ⟨-, -, he⟩
  · simp only [named, List.mem_cons, List.not_mem_nil, or_false] at hn
    cases lines <;> rcases hn with rfl | rfl | rfl | rfl | rfl | rfl <;> simp [escapeChar]
  · simp [he]
  · simpa [he] using hq

/-- Up to two quotes before something else are text. -/
theorem basicLines?_quotes {r : List Char} (hr : r.head? ≠ some '"') : ∀ {j : Nat}, j ≤ 2 →
    basicLines? .text (List.replicate j '"' ++ r) =
      (basicLines? .text r).map fun (s, rest) => (List.replicate j '"' ++ s, rest)
  | 0, _ => by simp
  | j + 1, hj => by
    have ih := basicLines?_quotes hr (j := j) (by omega)
    have hq : ∀ r', List.replicate j '"' ++ r ≠ '"' :: '"' :: r' := by
      intro r' heq
      have : j = 0 ∨ j = 1 := by omega
      rcases this with rfl | rfl
      · rw [show r = '"' :: '"' :: r' from heq] at hr
        exact hr rfl
      · rw [show r = '"' :: r' from (List.cons.inj heq).2] at hr
        exact hr rfl
    rw [List.replicate_succ, List.cons_append,
      basicLines?_plain (fun _ => hq) (by decide) (by decide), ih]
    cases basicLines? .text r <;> rfl

/-- The quotes at the end, of which up to two belong to the text. -/
theorem basicLines?_end {r : List Char} (hr : r.head? ≠ some '"') : ∀ {j : Nat}, j ≤ 2 →
    basicLines? .text (List.replicate j '"' ++ '"' :: '"' :: '"' :: r) =
      some (List.replicate j '"', r)
  | 0, _ | 1, _ => by
    cases r with
    | nil => rfl
    | cons c r =>
      have hc : c ≠ '"' := by simpa using hr
      simp [List.replicate_succ, basicLines?, hc]
  | 2, _ => rfl

/-- Of a text whose first quotes have been passed, the rest is read as it was written. -/
theorem basicLines?_escape {r : List Char} (hr : r.head? ≠ some '"') :
    ∀ (s : List Char) (j : Nat), j ≤ 2 →
    basicLines? .text (List.replicate j '"' ++ (escape true (2 - j) s ++ '"' :: '"' :: '"' :: r)) =
      some (List.replicate j '"' ++ s, r)
  | [], j, hj => by simpa [escape] using basicLines?_end hr hj
  | c :: s, j, hj => by
    by_cases hc : c = '"'
    · -- a third quote in a row is escaped, after which there is room for two again
      subst hc
      by_cases h2 : j = 2
      · subst h2
        have ih := basicLines?_escape hr s 0 (by omega)
        have hread :
            basicLines? .text ('\\' :: '"' :: (escape true 2 s ++ '"' :: '"' :: '"' :: r)) =
            push '"' (some (s, r)) := by
          rw [← show _ = some (s, r) from ih]
          rfl
        rw [show (2 - 2 : Nat) = 0 from rfl, escape_quote, if_pos rfl, List.cons_append,
          List.cons_append, basicLines?_quotes (by simp) (Nat.le_refl 2), hread]
        rfl
      · have ih := basicLines?_escape hr s (j + 1) (by omega)
        obtain ⟨room, hroom⟩ : ∃ room, 2 - j = room + 1 := ⟨1 - j, by omega⟩
        rw [show 2 - (j + 1) = room by omega] at ih
        rw [hroom]
        show basicLines? .text (List.replicate j '"' ++ '"' :: (escape true room s ++ _)) = _
        simpa [List.replicate_succ'] using ih
    · have ih := basicLines?_escape hr s 0 (by omega)
      rw [escape_char hc, List.append_assoc, basicLines?_quotes (head?_escapeChar hc _) hj,
        basicLines?_escapeChar hc, if_pos rfl]
      rw [show basicLines? .text (escape true 2 s ++ '"' :: '"' :: '"' :: r) = some (s, r) from ih]
      rfl

theorem literalLines?_plain {c : Char} {r : List Char}
    (hq : c = '\'' → ∀ r', r ≠ '\'' :: '\'' :: r') (h : isControl c = false) :
    literalLines? (c :: r) = push c (literalLines? r) := by
  have hn : c ≠ '\n' := by
    rintro rfl
    cases h
  have hr : c ≠ '\r' := by
    rintro rfl
    cases h
  rw [literalLines?.eq_def]
  split <;> simp_all

theorem hasThree_of_cons {q c : Char} {s : List Char} (h : hasThree q (c :: s) = false) :
    hasThree q s = false := by
  match s with
  | [] | [_] => rfl
  | a :: b :: s =>
    rw [hasThree, Bool.or_eq_false_iff] at h
    exact h.2

theorem literalLines?_end {r : List Char} (hr : r.head? ≠ some '\'') : ∀ {j : Nat}, j ≤ 2 →
    literalLines? (List.replicate j '\'' ++ '\'' :: '\'' :: '\'' :: r) =
      some (List.replicate j '\'', r)
  | 0, _ | 1, _ => by
    cases r with
    | nil => rfl
    | cons c r =>
      have hc : c ≠ '\'' := by simpa using hr
      simp [List.replicate_succ, literalLines?, hc]
  | 2, _ => rfl

/-- Two quotes follow a quote of the text only at its end. -/
theorem end_of_quotes {r r' : List Char} : ∀ {s : List Char}, hasThree '\'' ('\'' :: s) = false →
    s ++ '\'' :: '\'' :: '\'' :: r = '\'' :: '\'' :: r' → s = [] ∨ s = ['\'']
  | [], _, _ => .inl rfl
  | [d], _, h => .inr (by rw [(List.cons.inj h).1])
  | d :: e :: s, h3, h => by
    obtain ⟨hd, ht⟩ := List.cons.inj h
    obtain ⟨he, -⟩ := List.cons.inj ht
    rw [hd, he] at h3
    cases h3

theorem literalLines?_text {r : List Char} (hr : r.head? ≠ some '\'') : ∀ {s : List Char},
    (∀ c ∈ s, isControl c = true → c = '\n') → hasThree '\'' s = false →
    literalLines? (s ++ '\'' :: '\'' :: '\'' :: r) = some (s, r)
  | [], _, _ => literalLines?_end hr (j := 0) (by omega)
  | c :: s, h, h3 => by
    have ih :=
      literalLines?_text hr (fun d hd => h d (List.mem_cons_of_mem c hd)) (hasThree_of_cons h3)
    -- near the end the quotes of the text run into the closing ones and are read with them
    by_cases hend : c = '\'' ∧ (s = [] ∨ s = ['\''])
    · obtain ⟨rfl, rfl | rfl⟩ := hend
      · exact literalLines?_end hr (j := 1) (by omega)
      · exact literalLines?_end hr (j := 2) (by omega)
    · by_cases hc : isControl c = true
      · obtain rfl := h c List.mem_cons_self hc
        show push '\n' (literalLines? (s ++ _)) = _
        rw [ih]
        rfl
      · have hq : c = '\'' → ∀ r', s ++ '\'' :: '\'' :: '\'' :: r ≠ '\'' :: '\'' :: r' := by
          rintro rfl r' heq
          exact hend ⟨rfl, end_of_quotes h3 heq⟩
        rw [List.cons_append, literalLines?_plain hq (by simpa using hc), ih]
        rfl

/-! ## Values -/

theorem dropLineEnd_of_head {s : List Char} (hn : s.head? ≠ some '\n') (hr : s.head? ≠ some '\r') :
    dropLineEnd s = s := by
  unfold dropLineEnd
  split <;> simp_all

/-- The line end after the first quotes is dropped, and nothing else. -/
theorem dropLineEnd_firstLineEnd {s t : List Char} (h : s.contains '\n' = false →
    t.head? ≠ some '\n' ∧ t.head? ≠ some '\r') : dropLineEnd (firstLineEnd s ++ t) = t := by
  unfold firstLineEnd
  split
  · rfl
  · next hs =>
    obtain ⟨hn, hr⟩ := h (by simpa using hs)
    exact dropLineEnd_of_head hn hr

theorem head?_escape_lines {s : List Char} (h : s.contains '\n' = false) (t : List Char) :
    (escape true 2 s ++ '"' :: t).head? ≠ some '\n' ∧
    (escape true 2 s ++ '"' :: t).head? ≠ some '\r' := by
  cases s with
  | nil => simp [escape]
  | cons c s =>
    by_cases hc : c = '"'
    · simp [hc, escape]
    · have hn : c ≠ '\n' := by
        rintro rfl
        simp at h
      rw [escape_char hc]
      rcases escapeChar_cases true c with hnamed | ⟨-, he⟩ | ⟨h, -, he⟩
      · simp only [named, List.mem_cons, List.not_mem_nil, or_false] at hnamed
        rcases hnamed with rfl | rfl | rfl | rfl | rfl | rfl <;> simp [escapeChar] at hn ⊢
      · simp [he]
      · have hr : c ≠ '\r' := by
          rintro rfl
          cases h
        simp [he, hn, hr]

theorem string?_basicLines (s : List Char) {r : List Char} (hr : NoQuote r) :
    string? (basicLines s ++ r) = some (s, r) := by
  have hlines := basicLines?_escape hr.double s 0 (by omega)
  have hdrop : dropLineEnd (firstLineEnd s ++ (escape true 2 s ++ '"' :: '"' :: '"' :: r)) =
      escape true 2 s ++ '"' :: '"' :: '"' :: r :=
    dropLineEnd_firstLineEnd fun h => head?_escape_lines h _
  have htext : basicLines s ++ r =
      '"' :: '"' :: '"' :: (firstLineEnd s ++ (escape true 2 s ++ '"' :: '"' :: '"' :: r)) := by
    simp [basicLines]
  rw [htext]
  show basicLines? .text (dropLineEnd _) = _
  rw [hdrop]
  simpa using hlines

theorem string?_literalLines {s : List Char} (hc : ∀ c ∈ s, isControl c = true → c = '\n')
    (h3 : hasThree '\'' s = false) {r : List Char} (hr : NoQuote r) :
    string? (literalLines s ++ r) = some (s, r) := by
  have hdrop : dropLineEnd (firstLineEnd s ++ (s ++ '\'' :: '\'' :: '\'' :: r)) =
      s ++ '\'' :: '\'' :: '\'' :: r := by
    refine dropLineEnd_firstLineEnd fun h => ?_
    cases s with
    | nil => simp
    | cons c s =>
      have hn : c ≠ '\n' := by
        rintro rfl
        simp at h
      have hr : c ≠ '\r' := by
        rintro rfl
        exact absurd (hc '\r' List.mem_cons_self (by decide)) (by decide)
      simp [hn, hr]
  have htext : literalLines s ++ r =
      '\'' :: '\'' :: '\'' :: (firstLineEnd s ++ (s ++ '\'' :: '\'' :: '\'' :: r)) := by
    simp [literalLines]
  rw [htext]
  show literalLines? (dropLineEnd _) = _
  rw [hdrop]
  exact literalLines?_text hr.single hc h3

/-- A quote that two more of its kind do not follow begins a string on one line. -/
theorem string?_oneLine {s : List Char} (hd : ∀ r, s ≠ '"' :: '"' :: '"' :: r)
    (hs : ∀ r, s ≠ '\'' :: '\'' :: '\'' :: r) : string? s = oneLine? s := by
  unfold string?
  split
  · exact absurd rfl (hd _)
  · exact absurd rfl (hs _)
  · rfl

theorem string?_basic (s : List Char) {r : List Char} (hr : NoQuote r) :
    string? (basic s ++ r) = some (s, r) := by
  have htwo : ∀ r', escape false 0 s ++ '"' :: r ≠ '"' :: '"' :: r' := by
    intro r' heq
    cases s with
    | nil => exact hr.double (by rw [(List.cons.inj heq).2]; rfl)
    | cons c s =>
      by_cases hc : c = '"'
      · simp [hc, escape] at heq
      · rw [escape_char hc, List.append_assoc] at heq
        exact head?_escapeChar hc _ (by rw [heq]; rfl)
  have htext : basic s ++ r = '"' :: (escape false 0 s ++ '"' :: r) := by simp [basic]
  rw [string?_oneLine, oneLine?_basic]
  · intro r' heq
    rw [htext] at heq
    exact htwo r' (List.cons.inj heq).2
  · intro r' heq
    rw [htext] at heq
    exact absurd (List.cons.inj heq).1 (by decide)

theorem string?_literal {s : List Char} (h : ∀ c ∈ s, isControl c = false ∧ c ≠ '\'')
    {r : List Char} (hr : NoQuote r) : string? (literal s ++ r) = some (s, r) := by
  have htwo : ∀ r', s ++ '\'' :: r ≠ '\'' :: '\'' :: r' := by
    intro r' heq
    cases s with
    | nil => exact hr.single (by rw [(List.cons.inj heq).2]; rfl)
    | cons c s => exact (h c List.mem_cons_self).2 (List.cons.inj heq).1
  have htext : literal s ++ r = '\'' :: (s ++ '\'' :: r) := by simp [literal]
  rw [string?_oneLine, oneLine?_literal h]
  · intro r' heq
    rw [htext] at heq
    exact absurd (List.cons.inj heq).1 (by decide)
  · intro r' heq
    rw [htext] at heq
    exact htwo r' (List.cons.inj heq).2

theorem string?_value (s : List Char) {r : List Char} (hr : NoQuote r) :
    string? (value s ++ r) = some (s, r) := by
  have hcontrol : (!s.any fun c => isControl c && c != '\n') = true →
      ∀ c ∈ s, isControl c = true → c = '\n' := by
    intro h c hc
    simp only [Bool.not_eq_true', List.any_eq_false] at h
    simpa using h c hc
  unfold value
  simp only [Bool.and_eq_true]
  split
  · exact string?_basic s hr
  split
  · next h =>
    obtain ⟨⟨hc, hq⟩, hn⟩ := h
    refine string?_literal (fun c hm => ⟨?_, ?_⟩) hr
    · rw [Bool.eq_false_iff]
      intro hx
      obtain rfl := hcontrol hc c hm hx
      simp [hm] at hn
    · rintro rfl
      simp [hm] at hq
  split
  · exact string?_basicLines s hr
  split
  · next h => exact string?_literalLines (hcontrol h.1) (by simpa using h.2) hr
  split
  · exact string?_basicLines s hr
  · exact string?_basic s hr

theorem exists_value_eq (s : List Char) : ∃ q r, value s = q :: r ∧ (q = '"' ∨ q = '\'') := by
  unfold value
  simp only
  split
  · exact ⟨'"', _, rfl, .inl rfl⟩
  split
  · exact ⟨'\'', _, rfl, .inr rfl⟩
  split
  · exact ⟨'"', _, rfl, .inl rfl⟩
  split
  · exact ⟨'\'', _, rfl, .inr rfl⟩
  split
  · exact ⟨'"', _, rfl, .inl rfl⟩
  · exact ⟨'"', _, rfl, .inl rfl⟩

end FetchPlan.Toml.Quoted
