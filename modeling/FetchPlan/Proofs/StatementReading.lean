import FetchPlan.Proofs.QuotedReading
import FetchPlan.Toml.Statement

/-!
Written lines read back as statements. A key reads back in each of its styles (`keyPart?_key`), a
value as the expression it was written for (`Writes`), and a line as its header or its key with
its value, whatever the names and strings in it hold. `Denotes` says which statements a whole text
is read as; it is built up line by line from the end of the text.

The text is read from its front, so the lemmas about a part say what is left after it, and are put
together by `Denotes`.
-/
namespace FetchPlan.Toml.Statement

open Quoted

/-! ## Keys -/

theorem isBare_ne {c d : Char} (h : isBare c = true) (hd : isBare d = false) : c ≠ d := by
  rintro rfl
  rw [h] at hd
  cases hd

/-- What may follow a key: anything that no bare key goes on with. -/
def NoBare (r : List Char) : Prop := ∀ c ∈ r.head?, isBare c = false

theorem keyPart?_bare {s r : List Char} (hs : s ≠ []) (hb : ∀ c ∈ s, isBare c = true)
    (hr : NoBare r) : keyPart? (s ++ r) = some (s, r) := by
  have hone : oneLine? (s ++ r) = none := by
    cases s with
    | nil => exact absurd rfl hs
    | cons c s =>
      have hc := hb c List.mem_cons_self
      rw [List.cons_append]
      unfold oneLine?
      split
      · next heq => exact absurd (List.cons.inj heq).1 (isBare_ne hc (by decide))
      · next heq => exact absurd (List.cons.inj heq).1 (isBare_ne hc (by decide))
      · rfl
  have htake : r.takeWhile isBare = [] ∧ r.dropWhile isBare = r := by
    cases r with
    | nil => exact ⟨rfl, rfl⟩
    | cons c r =>
      have hc : isBare c = false := hr c rfl
      simp [hc]
  unfold keyPart?
  rw [hone]
  simp only [List.takeWhile_append_of_pos hb, List.dropWhile_append_of_pos hb, htake,
    List.append_nil]
  rw [if_neg hs]

theorem keyPart?_key (s : List Char) {r : List Char} (hr : NoBare r) :
    keyPart? (key s ++ r) = some (s, r) := by
  have hquoted : ∀ t, oneLine? (t ++ r) = some (s, r) → keyPart? (t ++ r) = some (s, r) := by
    intro t ht
    rw [keyPart?, ht]
  unfold key
  split
  · next h => exact keyPart?_bare h.1 (by simpa using h.2) hr
  split
  · exact hquoted _ (oneLine?_basic s r)
  split
  · next h =>
    simp only [Bool.and_eq_true, Bool.not_eq_true', List.any_eq_false] at h
    refine hquoted _ (oneLine?_literal (fun c hc => ⟨by simpa using h.1 c hc, ?_⟩) r)
    rintro rfl
    simp [hc] at h
  · exact hquoted _ (oneLine?_basic s r)

theorem exists_key_eq (s : List Char) :
    ∃ c r, key s = c :: r ∧ (c = '"' ∨ c = '\'' ∨ isBare c = true) := by
  unfold key
  split
  · next h =>
    cases s with
    | nil => exact absurd rfl h.1
    | cons c s =>
      have hc : isBare c = true := List.all_eq_true.1 h.2 c List.mem_cons_self
      exact ⟨c, s, rfl, .inr (.inr hc)⟩
  split
  · exact ⟨'"', _, rfl, .inl rfl⟩
  split
  · exact ⟨'\'', _, rfl, .inr (.inl rfl)⟩
  · exact ⟨'"', _, rfl, .inl rfl⟩

theorem head?_key {d : Char} (hb : isBare d = false) (hq : d ≠ '"') (hs : d ≠ '\'')
    (s r : List Char) : (key s ++ r).head? ≠ some d := by
  obtain ⟨c, t, hk, hc⟩ := exists_key_eq s
  rw [hk]
  rintro ⟨⟩
  rcases hc with rfl | rfl | hc
  · exact hq rfl
  · exact hs rfl
  · rw [hb] at hc
    cases hc

theorem skipBlanks_of_head {s : List Char} (hs : s.head? ≠ some ' ') (ht : s.head? ≠ some '\t') :
    skipBlanks s = s := by
  cases s with
  | nil => rfl
  | cons c s =>
    have hc : isBlank c = false := by
      simp only [List.head?_cons, ne_eq, Option.some.injEq] at hs ht
      simp [isBlank, hs, ht]
    simp [skipBlanks, hc]

theorem skipBlanks_key (s r : List Char) : skipBlanks (key s ++ r) = key s ++ r :=
  skipBlanks_of_head (head?_key (by decide) (by decide) (by decide) s r)
    (head?_key (by decide) (by decide) (by decide) s r)

theorem key?_last (parts : Nat) (s : List Char) {r : List Char} (hr : NoBare r)
    (hdot : (skipBlanks r).head? ≠ some '.') :
    key? (parts + 1) (key s ++ r) = some ([String.ofList s], skipBlanks r) := by
  have hpart := keyPart?_key s hr
  unfold key?
  rw [hpart]
  simp only [Option.bind_eq_bind, Option.bind_some]
  split
  · next heq => exact absurd (by rw [heq]; rfl) hdot
  · rfl

theorem key?_pair (parts : Nat) {t : List Char} (ht : t ≠ []) (hb : ∀ c ∈ t, isBare c = true)
    (s : List Char) {r : List Char} (hr : NoBare r) (hdot : (skipBlanks r).head? ≠ some '.') :
    key? (parts + 2) (t ++ '.' :: (key s ++ r)) =
      some ([String.ofList t, String.ofList s], skipBlanks r) := by
  have hpart : keyPart? (t ++ '.' :: (key s ++ r)) = some (t, '.' :: (key s ++ r)) :=
    keyPart?_bare ht hb fun c hc => by cases hc; decide
  have hlast := key?_last parts s hr hdot
  rw [key?, hpart]
  show (key? (parts + 1) (skipBlanks (key s ++ r))).bind _ = _
  rw [skipBlanks_key, hlast]
  rfl

/-! ## Values -/

/-- A text that is read as a value wherever no quote follows it. -/
structure Writes (text : List Char) (e : Expr) : Prop where
  noBlank : text.head? ≠ some ' ' ∧ text.head? ≠ some '\t'
  notNil : text ≠ []
  reads : ∀ (fuel depth : Nat) (r : List Char), text.length ≤ fuel → NoQuote r →
    value? (fuel + 1) (depth + 1) (text ++ r) = some (e, r)

theorem value?_value (fuel depth : Nat) (s : List Char) {r : List Char} (hr : NoQuote r) :
    value? (fuel + 1) depth (value s ++ r) = some (.scalar (.string (String.ofList s)), r) := by
  obtain ⟨q, t, hv, hq⟩ := exists_value_eq s
  have hread := string?_value s hr
  rw [hv, List.cons_append] at hread ⊢
  have hscalar : value? (fuel + 1) depth (q :: (t ++ r)) = scalar? (q :: (t ++ r)) := by
    rcases hq with rfl | rfl <;> simp [value?]
  have hquote : (q :: (t ++ r)).head? = some '"' ∨ (q :: (t ++ r)).head? = some '\'' := by
    rcases hq with rfl | rfl
    · exact .inl rfl
    · exact .inr rfl
  rw [hscalar, scalar?, if_pos hquote, hread]
  rfl

theorem writes_value (s : List Char) : Writes (value s) (.scalar (.string (String.ofList s))) := by
  obtain ⟨q, t, hv, hq⟩ := exists_value_eq s
  refine ⟨?_, by simp [hv], fun fuel depth r _ hr => value?_value fuel (depth + 1) s hr⟩
  rw [hv]
  rcases hq with rfl | rfl <;> simp

theorem skipGaps?_value (s r : List Char) :
    skipGaps? false (value s ++ r) = some (value s ++ r) := by
  obtain ⟨q, t, hv, hq⟩ := exists_value_eq s
  rw [hv]
  rcases hq with rfl | rfl <;> simp [skipGaps?, isBlank]

/-- Reading the items of an array passes a string, and goes on where a comma follows. -/
theorem items?_value (fuel depth : Nat) (s : List Char) {c : Char} (hc : c = ']' ∨ c = ',')
    (r : List Char) :
    items? (fuel + 2) depth (value s ++ c :: r) =
      if c = ']' then some ([.scalar (.string (String.ofList s))], r)
      else (items? (fuel + 1) depth r).map fun (vs, r) =>
        (.scalar (.string (String.ofList s)) :: vs, r) := by
  have hquote : NoQuote (c :: r) := by rcases hc with rfl | rfl <;> exact ⟨by simp, by simp⟩
  have hnext : skipGaps? false (c :: r) = some (c :: r) := by rcases hc with rfl | rfl <;> rfl
  obtain ⟨q, t, hv, hq⟩ := exists_value_eq s
  have hgaps := skipGaps?_value s (c :: r)
  have hread := value?_value fuel depth s hquote
  rw [hv, List.cons_append] at hgaps hread ⊢
  have hopen : q ≠ ']' := by rcases hq with rfl | rfl <;> decide
  rw [items?, hgaps]
  simp only [Option.bind_eq_bind, Option.bind_some]
  split
  · next heq => exact absurd (List.cons.inj heq).1 hopen
  · rw [hread]
    simp only [Option.bind_some, hnext]
    rcases hc with rfl | rfl
    · rfl
    · rw [if_neg (by decide)]
      show (items? (fuel + 1) depth r).bind _ = _
      cases items? (fuel + 1) depth r <;> rfl

theorem items?_blank (fuel depth : Nat) (s : List Char) :
    items? fuel depth (' ' :: s) = items? fuel depth s := by
  cases fuel <;> rfl

theorem items?_strings (depth : Nat) (r : List Char) : ∀ (items : List (List Char)) (fuel : Nat),
    items.length < fuel →
    items? fuel depth (List.intercalate [',', ' '] (items.map value) ++ ']' :: r) =
      some (items.map fun s => .scalar (.string (String.ofList s)), r)
  | [], fuel + 1, _ => rfl
  | [s], fuel + 2, _ => by
    rw [List.map_singleton, List.intercalate_singleton, items?_value fuel depth s (.inl rfl)]
    rfl
  | s :: s' :: items, fuel + 2, h => by
    -- the blank after the comma belongs to the gap before the next item
    have ih := items?_strings depth r (s' :: items) (fuel + 1) (by simpa using h)
    rw [List.map_cons] at ih
    rw [List.map_cons, List.map_cons, List.intercalate_cons_cons, List.append_assoc,
      List.append_assoc]
    show items? (fuel + 2) depth (value s ++ ',' :: ' ' :: (_ ++ ']' :: r)) = _
    rw [items?_value fuel depth s (.inr rfl), if_neg (by decide), items?_blank, ih]
    rfl

theorem length_intercalate_value : ∀ items : List (List Char),
    items.length ≤ (List.intercalate [',', ' '] (items.map value)).length
  | [] => by simp
  | [s] => by
    obtain ⟨q, t, hv, -⟩ := exists_value_eq s
    simp [hv]
  | s :: s' :: items => by
    have ih := length_intercalate_value (s' :: items)
    rw [List.map_cons] at ih
    rw [List.map_cons, List.map_cons, List.intercalate_cons_cons]
    simp only [List.length_append, List.length_cons, List.length_nil] at ih ⊢
    omega

theorem writes_stringArray (items : List (List Char)) :
    Writes (stringArray items)
      (.array (items.map fun s => .scalar (.string (String.ofList s)))) := by
  refine ⟨by simp [stringArray], by simp [stringArray], fun fuel depth r hfuel _ => ?_⟩
  have hlen := length_intercalate_value items
  obtain ⟨fuel, rfl⟩ : ∃ f, fuel = f + 1 := ⟨fuel - 1, by simp [stringArray] at hfuel; omega⟩
  have hitems := items?_strings depth r items (fuel + 1) (by simp [stringArray] at hfuel; omega)
  have htext : stringArray items ++ r =
      '[' :: (List.intercalate [',', ' '] (items.map value) ++ ']' :: r) := by
    simp [stringArray]
  rw [htext, value?]
  simp only
  rw [hitems]
  rfl

/-! ## Lines -/

theorem statement?_assign (name : List Char) {text : List Char} {e : Expr} (h : Writes text e)
    (r : List Char) :
    statement? (key name ++ " = ".toList ++ text ++ '\n' :: r) =
      some (.assign [String.ofList name] e, '\n' :: r) := by
  have htext : key name ++ " = ".toList ++ text ++ '\n' :: r =
      key name ++ ' ' :: '=' :: ' ' :: (text ++ '\n' :: r) := by
    simp
  have hkey : key? limit (key name ++ ' ' :: '=' :: ' ' :: (text ++ '\n' :: r)) =
      some ([String.ofList name], '=' :: ' ' :: (text ++ '\n' :: r)) :=
    key?_last 79 name (by intro c hc; cases hc; decide) (by simp [skipBlanks, isBlank])
  have hskip : skipBlanks (' ' :: (text ++ '\n' :: r)) = text ++ '\n' :: r := by
    have hhead : (text ++ '\n' :: r).head? = text.head? := by
      cases ht : text with
      | nil => exact absurd ht h.notNil
      | cons _ _ => rfl
    show skipBlanks (text ++ '\n' :: r) = _
    exact skipBlanks_of_head (hhead ▸ h.noBlank.1) (hhead ▸ h.noBlank.2)
  have hvalue := h.reads (2 * (' ' :: (text ++ '\n' :: r)).length + 1) 79 ('\n' :: r)
    (by simp; omega) ⟨by simp, by simp⟩
  have hbracket := head?_key (d := '[') (by decide) (by decide) (by decide) name
    (' ' :: '=' :: ' ' :: (text ++ '\n' :: r))
  rw [htext]
  unfold statement?
  -- no key begins with a bracket, so the line is no header
  split
  · next heq => exact absurd (by rw [heq]; rfl) hbracket
  · next heq => exact absurd (by rw [heq]; rfl) hbracket
  · rw [hkey]
    simp only [Option.bind_eq_bind, Option.bind_some]
    rw [hskip, show limit = 79 + 1 from rfl, hvalue]
    rfl

theorem statement?_header {t : List Char} (ht : t ≠ []) (hb : ∀ c ∈ t, isBare c = true)
    (s r : List Char) :
    statement? ('[' :: t ++ '.' :: key s ++ "]".toList ++ '\n' :: r) =
      some (.header [String.ofList t, String.ofList s], '\n' :: r) := by
  have htext : '[' :: t ++ '.' :: key s ++ "]".toList ++ '\n' :: r =
      '[' :: (t ++ '.' :: (key s ++ ']' :: '\n' :: r)) := by
    simp
  have hkey : key? limit (t ++ '.' :: (key s ++ ']' :: '\n' :: r)) =
      some ([String.ofList t, String.ofList s], ']' :: '\n' :: r) :=
    key?_pair 78 ht hb s (by intro c hc; cases hc; decide) (by simp [skipBlanks, isBlank])
  rw [htext]
  cases t with
  | nil => exact absurd rfl ht
  | cons c t =>
    have hc := hb c List.mem_cons_self
    have hskip : skipBlanks (c :: t ++ '.' :: (key s ++ ']' :: '\n' :: r)) =
        c :: t ++ '.' :: (key s ++ ']' :: '\n' :: r) :=
      skipBlanks_of_head (by simpa using isBare_ne hc (by decide))
        (by simpa using isBare_ne hc (by decide))
    have hopen : c ≠ '[' := isBare_ne hc (by decide)
    unfold statement?
    split
    · next heq => exact absurd (List.cons.inj (List.cons.inj heq).2).1 hopen
    · next heq =>
      rw [← (List.cons.inj heq).2, hskip, hkey]
      rfl
    · next hno => exact absurd rfl (hno _)

/-! ## Texts -/

/-- Which statements a text is read as, with whatever count is large enough. -/
def Denotes (text : List Char) (statements : List Statement) : Prop :=
  ∀ fuel, text.length < fuel → statements? fuel text = some statements

theorem denotes_nil : Denotes [] [] := by
  intro fuel h
  obtain ⟨fuel, rfl⟩ : ∃ f, fuel = f + 1 := ⟨fuel - 1, by simp at h; omega⟩
  rfl

theorem Denotes.emptyLine {r : List Char} {sts : List Statement} (h : Denotes r sts) :
    Denotes ('\n' :: r) sts := by
  intro fuel hfuel
  obtain ⟨fuel, rfl⟩ : ∃ f, fuel = f + 1 := ⟨fuel - 1, by simp at hfuel; omega⟩
  have hr := h (fuel + 1) (by simp at hfuel; omega)
  exact hr

theorem Denotes.line {c : Char} (line : List Char) {r : List Char} {st : Statement}
    {sts : List Statement}
    (hc : skipGaps? false (c :: line ++ '\n' :: r) = some (c :: line ++ '\n' :: r))
    (hst : statement? (c :: line ++ '\n' :: r) = some (st, '\n' :: r)) (h : Denotes r sts) :
    Denotes (c :: line ++ '\n' :: r) (st :: sts) := by
  intro fuel hfuel
  obtain ⟨fuel, rfl⟩ : ∃ f, fuel = f + 1 := ⟨fuel - 1, by omega⟩
  have hr := h fuel (by simp at hfuel; omega)
  rw [statements?, hc]
  show (statement? (c :: line ++ '\n' :: r)).bind _ = _
  rw [hst]
  show (statements? fuel r).bind _ = _
  rw [hr]
  rfl

theorem Denotes.assign {r : List Char} {sts : List Statement} (h : Denotes r sts) (name : List Char)
    {text : List Char} {e : Expr} (hw : Writes text e) :
    Denotes (key name ++ " = ".toList ++ text ++ '\n' :: r)
      (.assign [String.ofList name] e :: sts) := by
  have hst := statement?_assign name hw r
  obtain ⟨c, t, hk, hc⟩ := exists_key_eq name
  rw [hk] at hst ⊢
  refine Denotes.line (t ++ " = ".toList ++ text) ?_ hst h
  rcases hc with rfl | rfl | hc
  · rfl
  · rfl
  · have hn : c ≠ '\n' := isBare_ne hc (by decide)
    have hr : c ≠ '\r' := isBare_ne hc (by decide)
    have hb : isBlank c = false := by
      simp [isBlank, isBare_ne (d := ' ') hc (by decide), isBare_ne (d := '\t') hc (by decide)]
    have hs : c ≠ '#' := isBare_ne hc (by decide)
    simp [skipGaps?, hr, hb, hs]

theorem Denotes.header {r : List Char} {sts : List Statement} (h : Denotes r sts) {t : List Char}
    (ht : t ≠ []) (hb : ∀ c ∈ t, isBare c = true) (s : List Char) :
    Denotes ('[' :: t ++ '.' :: key s ++ "]".toList ++ '\n' :: r)
      (.header [String.ofList t, String.ofList s] :: sts) :=
  Denotes.line (t ++ '.' :: key s ++ "]".toList) rfl (statement?_header ht hb s r) h

/-- A text is read as what it denotes, if it does not begin with a byte order mark. -/
theorem Denotes.ofText? {text : List Char} {sts : List Statement} (h : Denotes text sts)
    (hmark : text.head? ≠ some '\uFEFF') : ofText? text = some sts := by
  unfold Statement.ofText?
  split
  · exact absurd rfl hmark
  · exact h _ (Nat.lt_succ_self _)

end FetchPlan.Toml.Statement
