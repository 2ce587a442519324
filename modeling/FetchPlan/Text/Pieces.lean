import FetchPlan.Text.Blank

/-!
Cutting a text into pieces: at the first character of a kind (`cut`), at the first occurrence of a
text (`cutAt`), at every character of a kind (`fields`, `words`), and at line ends (`lines`). Of
`cut` it is shown that it loses the separator only and takes the first one.

All functions are on lists of characters, so that what is cut off and what is left are again texts
of the same kind and proofs go by induction on the text.
-/
namespace FetchPlan.Text

/-- The parts before and after the first character that satisfies `p`. -/
def cut (p : Char → Bool) : List Char → Option (List Char × List Char)
  | [] => none
  | c :: r => if p c then some ([], r) else (cut p r).map fun (a, b) => (c :: a, b)

/-- The parts before and after the first occurrence of `sep`. -/
def cutAt (sep : List Char) : List Char → Option (List Char × List Char)
  | [] => if sep = [] then some ([], []) else none
  | c :: r =>
    match sep.isPrefixOf? (c :: r) with
    | some rest => some ([], rest)
    | none => (cutAt sep r).map fun (a, b) => (c :: a, b)

/-- The rest of `s` after the text `lead`, when `s` starts with it. -/
def after? (lead : String) (s : List Char) : Option (List Char) := lead.toList.isPrefixOf? s

/-- The text without `tail` at its end, when it ends so. -/
def before? (tail : String) (s : List Char) : Option (List Char) :=
  (tail.toList.reverse.isPrefixOf? s.reverse).map List.reverse

def contains (part : List Char) (s : List Char) : Bool := (cutAt part s).isSome

/-- The pieces between the characters that satisfy `p`, empty ones included; there is always one. -/
def fields (p : Char → Bool) : List Char → List (List Char)
  | [] => [[]]
  | c :: r =>
    if p c then [] :: fields p r
    else match fields p r with
      | [] => [[c]]
      | f :: fs => (c :: f) :: fs

/-- The non-empty pieces between blanks. -/
def words (s : List Char) : List (List Char) := (fields isBlank s).filter (· ≠ [])

/-- The lines of a text. A line ends at a line feed, together with one carriage return before it;
text after the last line feed is a line of its own when there is any. -/
def lines : List Char → List (List Char)
  | [] => []
  | '\n' :: r => [] :: lines r
  | '\r' :: '\n' :: r => [] :: lines r
  | c :: r =>
    match lines r with
    | [] => [[c]]
    | l :: ls => (c :: l) :: ls

theorem cut_eq_some {p : Char → Bool} : ∀ {s a b : List Char}, cut p s = some (a, b) →
    ∃ c, p c = true ∧ (∀ x ∈ a, p x = false) ∧ s = a ++ c :: b
  | [], _, _, h => by simp [cut] at h
  | c :: r, a, b, h => by
    by_cases hc : p c
    · simp only [cut, hc, if_true, Option.some.injEq, Prod.mk.injEq] at h
      exact ⟨c, hc, by simp [← h.1], by simp [← h.1, ← h.2]⟩
    · simp only [cut, hc, Bool.false_eq_true, if_false, Option.map_eq_some_iff] at h
      obtain ⟨⟨a', b'⟩, h', heq⟩ := h
      obtain ⟨d, hd, hall, hs⟩ := cut_eq_some h'
      simp only [Prod.mk.injEq] at heq
      refine ⟨d, hd, ?_, ?_⟩
      · rw [← heq.1]
        intro x hx
        rcases List.mem_cons.1 hx with rfl | hx
        · simpa using hc
        · exact hall x hx
      · rw [← heq.1, ← heq.2, hs]; rfl

theorem cut_eq_none {p : Char → Bool} {s : List Char} : cut p s = none ↔ ∀ x ∈ s, p x = false := by
  induction s with
  | nil => simp [cut]
  | cons c r ih => by_cases hc : p c <;> simp [cut, hc, ih]

theorem cut_append {p : Char → Bool} {c : Char} (hc : p c = true) :
    ∀ {a : List Char} (b : List Char), (∀ x ∈ a, p x = false) → cut p (a ++ c :: b) = some (a, b)
  | [], b, _ => by simp [cut, hc]
  | x :: a, b, h => by
    have hx := h x List.mem_cons_self
    simp [cut, hx, cut_append hc b fun y hy => h y (List.mem_cons_of_mem x hy)]

end FetchPlan.Text
