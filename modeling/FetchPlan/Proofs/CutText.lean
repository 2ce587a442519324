import Mathlib.Data.List.Chain
import Mathlib.Data.List.TakeWhile
import FetchPlan.Text.Pieces

/-!
Cutting undoes putting together. A separator is found where it was put if no earlier place could
hold it (`cutAt_append`), and in any case not later (`cutAt_of_append`); pieces without separators
come back from between them (`fields_intercalate`, `words_append`); and trimming takes off the
blanks around a text that has none at its ends (`trim_append`).
-/
namespace FetchPlan.Text

/-! ## A lead and a tail -/

theorem isPrefixOf?_append (lead s : List Char) : lead.isPrefixOf? (lead ++ s) = some s := by
  induction lead with
  | nil => rfl
  | cons c lead ih => simp [List.isPrefixOf?, ih]

theorem eq_of_isPrefixOf? : ∀ {lead s r : List Char}, lead.isPrefixOf? s = some r → s = lead ++ r
  | [], s, r, h => by simpa [List.isPrefixOf?] using h
  | c :: lead, [], r, h => by simp [List.isPrefixOf?] at h
  | c :: lead, d :: s, r, h => by
    by_cases hc : c = d
    · subst hc
      simp only [List.isPrefixOf?, beq_self_eq_true, if_true] at h
      rw [eq_of_isPrefixOf? h, List.cons_append]
    · simp [List.isPrefixOf?, hc] at h

theorem after?_append (lead : String) (s : List Char) : after? lead (lead.toList ++ s) = some s :=
  isPrefixOf?_append _ _

theorem before?_append (tail : String) (s : List Char) :
    before? tail (s ++ tail.toList) = some s := by
  rw [before?, List.reverse_append, isPrefixOf?_append, Option.map_some, List.reverse_reverse]

theorem mem_head?_of_isPrefix {α : Type} {a b : List α} (h : a <+: b) {c : α} (hc : c ∈ a.head?) :
    c ∈ b.head? := by
  obtain ⟨t, rfl⟩ := h
  rw [List.head?_append, hc]
  rfl

/-! ## At the first occurrence -/

theorem beq_false_of_not_mem {x : Char} {s : List Char} (h : x ∉ s) :
    ∀ c ∈ s, (c == x) = false := by
  intro c hc
  have hne : c ≠ x := fun he => h (he ▸ hc)
  simpa using hne

theorem cutAt_eq_some {sep : List Char} :
    ∀ {s a b : List Char}, cutAt sep s = some (a, b) → s = a ++ sep ++ b
  | [], a, b, h => by
    by_cases hsep : sep = []
    · simp only [cutAt, hsep, if_true, Option.some.injEq, Prod.mk.injEq] at h
      simp [hsep, ← h.1, ← h.2]
    · simp [cutAt, hsep] at h
  | c :: s, a, b, h => by
    unfold cutAt at h
    split at h
    · next rest hrest =>
      obtain ⟨rfl, rfl⟩ : [] = a ∧ rest = b := by simpa using h
      rw [List.nil_append, eq_of_isPrefixOf? hrest]
    · obtain ⟨⟨a', b'⟩, h', heq⟩ := Option.map_eq_some_iff.1 h
      obtain ⟨rfl, rfl⟩ : c :: a' = a ∧ b' = b := by simpa using heq
      rw [cutAt_eq_some h']
      simp

theorem cutAt_isPrefix {sep s a b : List Char} (h : cutAt sep s = some (a, b)) : a <+: s :=
  ⟨sep ++ b, by rw [cutAt_eq_some h, List.append_assoc]⟩

theorem cutAt_isSuffix {sep s a b : List Char} (h : cutAt sep s = some (a, b)) : b <:+ s :=
  ⟨a ++ sep, (cutAt_eq_some h).symm⟩

/-- A text is not cut at a separator of which it lacks a character. -/
theorem cutAt_eq_none {sep s : List Char} {x : Char} (hx : x ∈ sep) (h : x ∉ s) :
    cutAt sep s = none := by
  cases hs : cutAt sep s with
  | none => rfl
  | some p =>
    have := cutAt_eq_some hs
    rw [this] at h
    simp [hx] at h

theorem cutAt_append {x : Char} {sep : List Char} (b : List Char) : ∀ {a : List Char}, x ∉ a →
    cutAt (x :: sep) (a ++ x :: sep ++ b) = some (a, b)
  | [], _ => by
    have h := isPrefixOf?_append (x :: sep) b
    rw [List.cons_append] at h
    rw [List.nil_append, List.cons_append, cutAt, h]
  | c :: a, h => by
    obtain ⟨hc, ha⟩ : ¬ x = c ∧ x ∉ a := by simpa using h
    have hp : (x :: sep).isPrefixOf? (c :: (a ++ x :: sep ++ b)) = none := by
      simp [List.isPrefixOf?, hc]
    rw [List.cons_append, List.cons_append, cutAt, hp, cutAt_append b ha]
    rfl

/-- A text is cut no later than at a separator that was put into it. -/
theorem cutAt_of_append (sep b : List Char) : ∀ a : List Char,
    ∃ a' b', cutAt sep (a ++ sep ++ b) = some (a', b') ∧ b <:+ b'
  | [] => by
    cases sep with
    | nil => cases b <;> exact ⟨[], _, rfl, List.suffix_rfl⟩
    | cons x sep => exact ⟨[], b, cutAt_append b (by simp), List.suffix_rfl⟩
  | c :: a => by
    obtain ⟨a', b', h, hb⟩ := cutAt_of_append sep b a
    rw [List.cons_append, List.cons_append, cutAt]
    cases hp : sep.isPrefixOf? (c :: (a ++ sep ++ b)) with
    | none => exact ⟨c :: a', b', by rw [h]; rfl, hb⟩
    | some r =>
      refine ⟨[], r, rfl, ?_⟩
      -- what follows the earlier occurrence is the longer of two ends of one text
      have hr : c :: (a ++ sep ++ b) = sep ++ r := eq_of_isPrefixOf? hp
      have hlen := congrArg List.length hr
      simp only [List.length_cons, List.length_append] at hlen
      have hsuffix : b <:+ sep ++ r := ⟨c :: (a ++ sep), by rw [← hr]; simp⟩
      exact List.suffix_of_suffix_length_le hsuffix (List.suffix_append sep r) (by omega)

theorem cut_beq_eq_none {x : Char} {s : List Char} : cut (· == x) s = none ↔ x ∉ s := by
  refine cut_eq_none.trans ⟨fun h hx => ?_, beq_false_of_not_mem⟩
  have hxx := h x hx
  simp at hxx

theorem cut_beq_eq_some {x : Char} {s a b : List Char} :
    cut (· == x) s = some (a, b) ↔ x ∉ a ∧ s = a ++ x :: b := by
  constructor
  · intro h
    obtain ⟨c, hc, ha, hs⟩ := cut_eq_some h
    obtain rfl : c = x := by simpa using hc
    exact ⟨cut_beq_eq_none.1 (cut_eq_none.2 ha), hs⟩
  · rintro ⟨ha, rfl⟩
    exact cut_append (p := (· == x)) (beq_self_eq_true x) b (beq_false_of_not_mem ha)

theorem cut_of_mem {x : Char} {s : List Char} (h : x ∈ s) :
    ∃ a b, cut (· == x) s = some (a, b) := by
  cases hs : cut (· == x) s with
  | none => exact absurd h (cut_beq_eq_none.1 hs)
  | some p => exact ⟨p.1, p.2, rfl⟩

theorem takeWhile_of_cut {p : Char → Bool} {s a b : List Char} (h : cut p s = some (a, b)) :
    (s.takeWhile fun c => !p c) = a := by
  obtain ⟨c, hc, ha, rfl⟩ := cut_eq_some h
  rw [List.takeWhile_append_of_pos (by simpa using ha), List.takeWhile_cons_of_neg (by simp [hc]),
    List.append_nil]

theorem takeWhile_of_cut_none {p : Char → Bool} {s : List Char} (h : cut p s = none) :
    (s.takeWhile fun c => !p c) = s :=
  List.takeWhile_eq_self_iff.2 (by simpa using cut_eq_none.1 h)

theorem cut_of_append {p : Char → Bool} {c : Char} (hc : p c = true) (a b : List Char) :
    ∃ a' b', cut p (a ++ c :: b) = some (a', b') ∧ b <:+ b' := by
  induction a with
  | nil => exact ⟨[], b, by simp [cut, hc], List.suffix_rfl⟩
  | cons x a ih =>
    obtain ⟨a', b', h, hb⟩ := ih
    by_cases hx : p x = true
    · exact ⟨[], a ++ c :: b, by simp [cut, hx], ⟨a ++ [c], by simp⟩⟩
    · exact ⟨x :: a', b', by simp [cut, hx, h], hb⟩

/-! ## At a pair of characters -/

/-- Whether no character of a kind stands right before `y`. -/
def Unfollowed (p : Char → Bool) (y : Char) (s : List Char) : Prop :=
  s.IsChain fun c d => p c = true → d ≠ y

theorem unfollowed_of_none {p : Char → Bool} {y : Char} :
    ∀ {s : List Char}, (∀ c ∈ s, p c = false) →
    Unfollowed p y s
  | [], _ => .nil
  | [c], _ => .singleton c
  | c :: d :: s, h => by
    have hc := h c List.mem_cons_self
    exact .cons_cons (by simp [hc]) (unfollowed_of_none fun x hx => h x (List.mem_cons_of_mem c hx))

theorem unfollowed_of_not_mem {p : Char → Bool} {y : Char} :
    ∀ {s : List Char}, y ∉ s → Unfollowed p y s
  | [], _ => .nil
  | [c], _ => .singleton c
  | c :: d :: s, h => by
    obtain ⟨-, hd, hs⟩ : y ≠ c ∧ y ≠ d ∧ y ∉ s := by simpa using h
    exact .cons_cons (fun _ => Ne.symm hd) (unfollowed_of_not_mem (by simpa using ⟨hd, hs⟩))

/-- Two texts put together: where they meet, the first ends in no such character or the second does
not begin with `y`. -/
theorem Unfollowed.append {p : Char → Bool} {y : Char} {a b : List Char} (ha : Unfollowed p y a)
    (hb : Unfollowed p y b) (h : (∀ c ∈ a.getLast?, p c = false) ∨ b.head? ≠ some y) :
    Unfollowed p y (a ++ b) := by
  refine List.isChain_append.2 ⟨ha, hb, fun c hc d hd hp => ?_⟩
  rcases h with h | h
  · rw [h c hc] at hp
    cases hp
  · rintro rfl
    exact h hd

theorem cutAt_pair_cons (x y c d : Char) (s : List Char) :
    cutAt [x, y] (c :: d :: s) =
      if c = x ∧ d = y then some ([], s)
      else (cutAt [x, y] (d :: s)).map fun (a, b) => (c :: a, b) := by
  rw [cutAt]
  by_cases hc : c = x
  · by_cases hd : d = y
    · simp [List.isPrefixOf?, hc, hd]
    · simp [List.isPrefixOf?, hc, hd, Ne.symm hd]
  · simp [List.isPrefixOf?, hc, Ne.symm hc]

theorem cutAt_pair_eq_none {x y : Char} :
    ∀ {s : List Char}, cutAt [x, y] s = none ↔ Unfollowed (· == x) y s
  | [] => by simp [cutAt, Unfollowed]
  | [c] => by by_cases hc : x = c <;> simp [cutAt, List.isPrefixOf?, Unfollowed, hc]
  | c :: d :: s => by
    rw [cutAt_pair_cons, Unfollowed, List.isChain_cons_cons]
    have ih := cutAt_pair_eq_none (x := x) (y := y) (s := d :: s)
    rw [Unfollowed] at ih
    rw [← ih]
    by_cases h : c = x ∧ d = y
    · simp [h]
    · simp only [h, if_false, Option.map_eq_none_iff, beq_iff_eq]
      exact ⟨fun hs => ⟨fun hc hd => h ⟨hc, hd⟩, hs⟩, And.right⟩

/-- A pair of characters is found where it was put, after a text that does not hold it. -/
theorem cutAt_pair {x y : Char} (hxy : x ≠ y) (b : List Char) :
    ∀ {a : List Char}, Unfollowed (· == x) y a →
    cutAt [x, y] (a ++ x :: y :: b) = some (a, b)
  | [], _ => by simp [cutAt_pair_cons]
  | [c], _ => by
    have h := cutAt_pair_cons x y x y b
    rw [if_pos ⟨rfl, rfl⟩] at h
    rw [List.singleton_append, cutAt_pair_cons, if_neg fun h => hxy h.2, h]
    rfl
  | c :: d :: a, h => by
    obtain ⟨hcd, h⟩ := List.isChain_cons_cons.1 h
    have hne : ¬ (c = x ∧ d = y) := fun ⟨hc, hd⟩ => hcd (by simpa using hc) hd
    have ih := cutAt_pair hxy b h
    rw [List.cons_append] at ih
    rw [List.cons_append, List.cons_append, cutAt_pair_cons, if_neg hne, ih]
    rfl

theorem unfollowed_of_cutAt {x y : Char} : ∀ {s a b : List Char}, cutAt [x, y] s = some (a, b) →
    Unfollowed (· == x) y a
  | [], a, b, h => by simp [cutAt] at h
  | [c], a, b, h => by
    have hlength := congrArg List.length (cutAt_eq_some h)
    simp only [List.length_cons, List.length_nil, List.length_append] at hlength
    omega
  | c :: d :: s, a, b, h => by
    rw [cutAt_pair_cons] at h
    split at h
    · obtain ⟨rfl, -⟩ : [] = a ∧ s = b := by simpa using h
      exact .nil
    · next hpair =>
      obtain ⟨⟨a', b'⟩, h', heq⟩ := Option.map_eq_some_iff.1 h
      obtain ⟨rfl, rfl⟩ : c :: a' = a ∧ b' = b := by simpa using heq
      have ih := unfollowed_of_cutAt h'
      cases a' with
      | nil => exact .singleton c
      | cons e a' =>
        obtain rfl : d = e := by simpa using (List.cons.inj (cutAt_eq_some h')).1
        refine .cons_cons (fun hc hd => hpair ⟨by simpa using hc, hd⟩) ih

/-! ## Pieces between separators -/

theorem fields_ne_nil {p : Char → Bool} : ∀ s : List Char, fields p s ≠ []
  | [] => by simp [fields]
  | c :: s => by
    unfold fields
    split
    · simp
    · cases fields p s <;> simp

theorem fields_append_cons {p : Char → Bool} {c : Char} (hc : p c = true) (b : List Char) :
    ∀ a : List Char, fields p (a ++ c :: b) = fields p a ++ fields p b
  | [] => by simp [fields, hc]
  | x :: a => by
    have ih := fields_append_cons hc b a
    by_cases hx : p x = true
    · simp [fields, hx, ih]
    · obtain ⟨f, fs, hf⟩ := List.exists_cons_of_ne_nil (fields_ne_nil (p := p) a)
      rw [hf] at ih
      simp [fields, hx, ih, hf]

theorem fields_of_none {p : Char → Bool} :
    ∀ {a : List Char}, (∀ x ∈ a, p x = false) → fields p a = [a]
  | [], _ => rfl
  | x :: a, h => by
    have hx := h x List.mem_cons_self
    have ih := fields_of_none fun y hy => h y (List.mem_cons_of_mem x hy)
    simp [fields, hx, ih]

theorem fields_append {p : Char → Bool} {c : Char} (hc : p c = true) (b : List Char) {a : List Char}
    (ha : ∀ x ∈ a, p x = false) : fields p (a ++ c :: b) = a :: fields p b := by
  rw [fields_append_cons hc, fields_of_none ha]
  rfl

theorem sep_of_mem_fields {p : Char → Bool} :
    ∀ {s f : List Char}, f ∈ fields p s → ∀ c ∈ f, p c = false
  | [], f, h => by simp_all [fields]
  | c :: s, f, h => by
    by_cases hc : p c = true
    · simp only [fields, hc, if_true] at h
      rcases List.mem_cons.1 h with rfl | h
      · simp
      · exact sep_of_mem_fields h
    · have hc : p c = false := by simpa using hc
      cases hs : fields p s with
      | nil =>
        simp [fields, hc, hs] at h
        simp [h, hc]
      | cons g gs =>
        simp only [fields, hc, hs, Bool.false_eq_true, if_false] at h
        rcases List.mem_cons.1 h with rfl | h
        · intro d hd
          rcases List.mem_cons.1 hd with rfl | hd
          · exact hc
          · exact sep_of_mem_fields (hs ▸ List.mem_cons_self) d hd
        · exact sep_of_mem_fields (hs ▸ List.mem_cons_of_mem _ h)

/-- Pieces without separators come back when they are put together with one between each two. -/
theorem fields_intercalate {p : Char → Bool} {c : Char} (hc : p c = true) :
    ∀ {fs : List (List Char)}, fs ≠ [] → (∀ f ∈ fs, ∀ x ∈ f, p x = false) →
      fields p ([c].intercalate fs) = fs
  | [f], _, h => by
    rw [List.intercalate_singleton]
    exact fields_of_none (h f List.mem_cons_self)
  | f :: g :: fs, _, h => by
    rw [List.intercalate_cons_cons, List.append_assoc, List.singleton_append,
      fields_append hc _ (h f List.mem_cons_self),
      fields_intercalate hc (by simp) fun x hx => h x (List.mem_cons_of_mem f hx)]

theorem intercalate_fields (c : Char) : ∀ s : List Char, [c].intercalate (fields (· == c) s) = s
  | [] => rfl
  | x :: s => by
    have ih := intercalate_fields c s
    obtain ⟨f, fs, hf⟩ := List.exists_cons_of_ne_nil (fields_ne_nil (p := (· == c)) s)
    rw [hf] at ih
    by_cases hx : x = c
    · subst hx
      simp [fields, hf, ih]
    · have hfields : fields (· == c) (x :: s) = (x :: f) :: fs := by simp [fields, hx, hf]
      rw [hfields]
      cases fs with
      | nil => simpa using ih
      | cons g fs => simpa using ih

/-- The first piece is the start of the text, and each later one stands right after a separator. -/
theorem fields_eq_cons {p : Char → Bool} : ∀ s : List Char, ∃ f fs, fields p s = f :: fs ∧ f <+: s ∧
    ∀ g ∈ fs, ∃ c, p c = true ∧ c :: g <:+: s
  | [] => ⟨[], [], rfl, List.nil_prefix, by simp⟩
  | c :: s => by
    obtain ⟨f, fs, hf, hlead, hrest⟩ := fields_eq_cons (p := p) s
    have hlater : ∀ g ∈ fs, ∃ d, p d = true ∧ d :: g <:+: c :: s := fun g hg =>
      (hrest g hg).imp fun d hd => ⟨hd.1, hd.2.trans (List.suffix_cons c s).isInfix⟩
    by_cases hc : p c = true
    · refine ⟨[], f :: fs, by simp [fields, hc, hf], List.nil_prefix, fun g hg => ?_⟩
      rcases List.mem_cons.1 hg with rfl | hg
      · exact ⟨c, hc, (List.cons_prefix_cons.2 ⟨rfl, hlead⟩).isInfix⟩
      · exact hlater g hg
    · exact ⟨c :: f, fs, by simp [fields, hc, hf], List.cons_prefix_cons.2 ⟨rfl, hlead⟩, hlater⟩

/-! ## Words -/

def Unbroken (s : List Char) : Prop := ∀ c ∈ s, isBlank c = false

instance (s : List Char) : Decidable (Unbroken s) := List.decidableBAll (isBlank · = false) s

theorem Unbroken.append {a b : List Char} (ha : Unbroken a) (hb : Unbroken b) :
    Unbroken (a ++ b) := by
  intro c hc
  exact (List.mem_append.1 hc).elim (ha c) (hb c)

theorem Unbroken.not_mem {s : List Char} (h : Unbroken s) {c : Char} (hc : isBlank c = true) :
    c ∉ s := by
  intro hs
  rw [h c hs] at hc
  cases hc

theorem words_of_unbroken {s : List Char} (h : Unbroken s) (hs : s ≠ []) : words s = [s] := by
  rw [words, fields_of_none h]
  simp [hs]

theorem words_blank_cons {c : Char} (hc : isBlank c = true) (r : List Char) :
    words (c :: r) = words r := by
  simp [words, fields, hc]

theorem words_append {s : List Char} (h : Unbroken s) (hs : s ≠ []) : ∀ {r : List Char},
    (∀ c ∈ r.head?, isBlank c = true) → words (s ++ r) = s :: words r
  | [], _ => by rw [List.append_nil, words_of_unbroken h hs]; rfl
  | c :: r, hr => by
    have hc : isBlank c = true := hr c rfl
    rw [words_blank_cons hc, words, fields_append hc r h, List.filter_cons,
      if_pos (by simpa using hs), words]

theorem words_append_blank {c : Char} (hc : isBlank c = true) (a b : List Char) :
    words (a ++ c :: b) = words a ++ words b := by
  rw [words, fields_append_cons hc, List.filter_append, words, words]

theorem words_blanks_append {a : List Char} (ha : ∀ c ∈ a, isBlank c = true) (s : List Char) :
    words (a ++ s) = words s := by
  induction a with
  | nil => rfl
  | cons c a ih =>
    obtain ⟨hc, ha⟩ := List.forall_mem_cons.1 ha
    rw [List.cons_append, words_blank_cons hc, ih ha]

theorem words_append_blanks {b : List Char} (hb : ∀ c ∈ b, isBlank c = true) (s : List Char) :
    words (s ++ b) = words s := by
  cases b with
  | nil => rw [List.append_nil]
  | cons c b =>
    obtain ⟨hc, hb⟩ := List.forall_mem_cons.1 hb
    have hnone : words b = [] := by simpa [words, fields] using words_blanks_append hb []
    rw [words_append_blank hc, hnone, List.append_nil]

/-- A word begins the text, or stands right after a blank. -/
theorem prefix_or_after_blank {s w : List Char} (hw : w ∈ words s) :
    w <+: s ∨ ∃ c, isBlank c = true ∧ c :: w <:+: s := by
  obtain ⟨f, fs, hf, hlead, hrest⟩ := fields_eq_cons (p := isBlank) s
  have hmem : w ∈ fields isBlank s := (List.mem_filter.1 hw).1
  rw [hf] at hmem
  rcases List.mem_cons.1 hmem with rfl | hmem
  · exact .inl hlead
  · exact .inr (hrest w hmem)

/-! ## Trimming -/

/-- Whether no blank stands at either end of a text. -/
structure Trimmed (s : List Char) : Prop where
  head : ∀ c ∈ s.head?, isBlank c = false
  last : ∀ c ∈ s.getLast?, isBlank c = false

theorem Unbroken.trimmed {s : List Char} (h : Unbroken s) : Trimmed s :=
  ⟨fun c hc => h c (List.mem_of_mem_head? hc), fun c hc => h c (List.mem_of_getLast? hc)⟩

theorem dropWhile_append {p : Char → Bool} {a s : List Char} (ha : ∀ c ∈ a, p c = true)
    (hs : ∀ c ∈ s.head?, p c = false) : (a ++ s).dropWhile p = s := by
  rw [List.dropWhile_append_of_pos ha]
  cases s with
  | nil => rfl
  | cons c s => simp [hs c rfl]

theorem trim_append {a s b : List Char} (ha : ∀ c ∈ a, isBlank c = true)
    (hb : ∀ c ∈ b, isBlank c = true) (h : Trimmed s) (hs : s ≠ []) : trim (a ++ s ++ b) = s := by
  obtain ⟨c, r, rfl⟩ := List.exists_cons_of_ne_nil hs
  have hstart : trimStart (a ++ (c :: r) ++ b) = c :: r ++ b := by
    rw [trimStart, List.append_assoc]
    exact dropWhile_append ha h.head
  rw [trim, hstart, trimEnd, List.reverse_append, dropWhile_append, List.reverse_reverse]
  · simpa using hb
  · rw [List.head?_reverse]
    exact h.last

theorem trim_trimmed {s : List Char} (h : Trimmed s) : trim s = s := by
  by_cases hs : s = []
  · subst hs; rfl
  · simpa using trim_append (a := []) (b := []) (by simp) (by simp) h hs

/-- Trimming takes blanks off, at either end, and nothing else. -/
theorem exists_trim (s : List Char) :
    ∃ a b, (∀ c ∈ a, isBlank c = true) ∧ (∀ c ∈ b, isBlank c = true) ∧
    s = a ++ trim s ++ b := by
  refine ⟨s.takeWhile isBlank, ((trimStart s).reverse.takeWhile isBlank).reverse, fun c hc => ?_,
    fun c hc => ?_, ?_⟩
  · exact List.mem_takeWhile_imp hc
  · exact List.mem_takeWhile_imp (List.mem_reverse.1 hc)
  · have hend : trim s ++ ((trimStart s).reverse.takeWhile isBlank).reverse = trimStart s := by
      rw [trim, trimEnd, ← List.reverse_append, List.takeWhile_append_dropWhile,
        List.reverse_reverse]
    rw [List.append_assoc, hend, trimStart, List.takeWhile_append_dropWhile]

theorem words_trim (s : List Char) : words (trim s) = words s := by
  obtain ⟨a, b, ha, hb, hs⟩ := exists_trim s
  conv_rhs => rw [hs, words_append_blanks hb, words_blanks_append ha]

theorem trim_isInfix (s : List Char) : trim s <:+: s := by
  obtain ⟨a, b, -, -, hs⟩ := exists_trim s
  exact ⟨a, b, hs.symm⟩

theorem trim_isPrefix {s : List Char} (h : ∀ c ∈ s.head?, isBlank c = false) : trim s <+: s := by
  obtain ⟨a, b, ha, -, hs⟩ := exists_trim s
  cases a with
  | nil => exact ⟨b, hs.symm⟩
  | cons c a =>
    have hc : isBlank c = false := h c (by rw [hs]; rfl)
    rw [ha c List.mem_cons_self] at hc
    cases hc

theorem head?_trim (s : List Char) : ∀ c ∈ (trim s).head?, isBlank c = false := by
  intro c hc
  have hlead : trim s <+: trimStart s := by
    refine ⟨((trimStart s).reverse.takeWhile isBlank).reverse, ?_⟩
    rw [trim, trimEnd, ← List.reverse_append, List.takeWhile_append_dropWhile, List.reverse_reverse]
  have hstart := List.head?_dropWhile_not isBlank s
  have hc : (s.dropWhile isBlank).head? = some c := mem_head?_of_isPrefix hlead hc
  rwa [hc] at hstart

end FetchPlan.Text
