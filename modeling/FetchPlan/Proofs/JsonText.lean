import FetchPlan.Json.Quoted

/-!
A written JSON value reads back. The reader skips the line starts that the printer puts between
two parts, and what follows a value is left (`readValue?_render`), so a list and an object are
read part by part (`readItems?_render`, `readMembers?_render`) and a whole document gives its
value again (`parse?_render`). The fuel of the reader is measured by the text: two units for each
character are enough for every part of it.

Assumed is that no number stands in the value (`Numberless`), since a number is kept as it is
written and may be any text there.
-/
namespace FetchPlan.Json

inductive Numberless : Json → Prop
  | null : Numberless .null
  | boolean (b : Bool) : Numberless (.boolean b)
  | string (s : String) : Numberless (.string s)
  | array {items : List Json} (h : ∀ v ∈ items, Numberless v) : Numberless (.array items)
  | object {members : List (String × Json)} (h : ∀ m ∈ members, Numberless m.2) :
    Numberless (.object members)

/-! ## Spaces -/

def IsSpaces (s : List Char) : Prop := ∀ c ∈ s, isSpace c = true

theorem isSpaces_newLine (depth : Nat) : IsSpaces (newLine depth) := by
  intro c hc
  rcases List.mem_cons.1 hc with rfl | hc
  · rfl
  · rw [List.eq_of_mem_replicate hc]
    rfl

theorem skip_spaces {b : List Char} (hb : IsSpaces b) (s : List Char) : skip (b ++ s) = skip s :=
  List.dropWhile_append_of_pos hb

theorem skip_cons {c : Char} (hc : isSpace c = false) (s : List Char) : skip (c :: s) = c :: s := by
  simp [skip, hc]

theorem skip_quote (s rest : List Char) :
    skip (quote s ++ rest) = '"' :: (s.flatMap escape ++ '"' :: rest) := by
  have hquote : quote s ++ rest = '"' :: (s.flatMap escape ++ '"' :: rest) := by simp [quote]
  rw [hquote, skip_cons rfl]

theorem readValue?_spaces {b : List Char} (hb : IsSpaces b) (fuel : Nat) (s : List Char) :
    readValue? fuel (b ++ s) = readValue? fuel s := by
  cases fuel with
  | zero => rfl
  | succ fuel => simp only [readValue?, skip_spaces hb]

/-! ## Parts of a written value -/

/-- A written value begins neither with a space nor with the end of a list. -/
theorem head_renderChars {v : Json} (h : Numberless v) (depth : Nat) :
    ∃ c r, renderChars depth v = c :: r ∧ isSpace c = false ∧ c ≠ ']' := by
  cases h with
  | null => exact ⟨'n', _, rfl, rfl, by decide⟩
  | boolean b =>
    cases b with
    | true => exact ⟨'t', _, rfl, rfl, by decide⟩
    | false => exact ⟨'f', _, rfl, rfl, by decide⟩
  | string s => exact ⟨'"', _, rfl, rfl, by decide⟩
  | @array items _ => cases items <;> exact ⟨'[', _, rfl, rfl, by decide⟩
  | @object members _ =>
    cases members with
    | nil => exact ⟨'{', _, rfl, rfl, by decide⟩
    | cons m members => exact ⟨'{', _, rfl, rfl, by decide⟩

/-- Whether a value is read from its text at a depth, whatever follows it. -/
def Reads (depth : Nat) (v : Json) : Prop :=
  ∀ (fuel : Nat) (rest : List Char), 2 * (renderChars depth v).length ≤ fuel →
    readValue? fuel (renderChars depth v ++ rest) = some (v, rest)

theorem readItems?_render {depth : Nat} {tail rest : List Char} (htail : skip tail = ']' :: rest) :
    ∀ (vs : List Json) (v : Json), (∀ w ∈ v :: vs, Reads depth w) →
    ∀ (fuel : Nat) (b : List Char), IsSpaces b →
    2 * (renderChars depth v ++ renderItems depth vs).length < fuel →
    readItems? fuel (b ++ (renderChars depth v ++ (renderItems depth vs ++ tail))) =
      some (v :: vs, rest)
  | vs, v, h, 0, b, hb, hfuel => by omega
  | [], v, h, fuel + 1, b, hb, hfuel => by
    have hv : readValue? fuel (renderChars depth v ++ tail) = some (v, tail) := by
      apply h v List.mem_cons_self
      simp only [renderItems, List.append_nil] at hfuel
      omega
    simp only [renderItems, List.nil_append, readItems?, readValue?_spaces hb, hv, htail]
  | w :: vs, v, h, fuel + 1, b, hb, hfuel => by
    simp only [renderItems, List.length_append, List.length_cons] at hfuel
    have hv := h v List.mem_cons_self fuel (renderItems depth (w :: vs) ++ tail) (by omega)
    have hcomma : skip (renderItems depth (w :: vs) ++ tail) =
        ',' :: (newLine depth ++ (renderChars depth w ++ (renderItems depth vs ++ tail))) := by
      simp only [renderItems, List.cons_append, List.append_assoc]
      exact skip_cons rfl _
    have ih := readItems?_render htail vs w (fun x hx => h x (List.mem_cons_of_mem v hx)) fuel
      (newLine depth) (isSpaces_newLine depth) (by simp only [List.length_append]; omega)
    simp only [readItems?, readValue?_spaces hb, hv, hcomma, ih, Option.map_some]

def readAfter (fuel : Nat) (m : String × Json) :
    List Char → Option (List (String × Json) × List Char)
  | ',' :: r => (readMembers? fuel r).map fun (ms, rest) => (m :: ms, rest)
  | '}' :: r => some ([m], r)
  | _ => none

/-- A member of an object is read, and what follows it decides whether there are more. -/
theorem readMembers?_member {depth : Nat} {k : String} {v : Json} (h : Reads depth v) {fuel : Nat}
    {b : List Char} (hb : IsSpaces b) (hfuel : 2 * (renderChars depth v).length ≤ fuel)
    (rest : List Char) :
    readMembers? (fuel + 1) (b ++ (quote k.toList ++ ':' :: ' ' :: (renderChars depth v ++ rest))) =
      readAfter fuel (k, v) (skip rest) := by
  have hkey : skip (b ++ (quote k.toList ++ ':' :: ' ' :: (renderChars depth v ++ rest))) =
      '"' :: (k.toList.flatMap escape ++ '"' :: ':' :: ' ' :: (renderChars depth v ++ rest)) := by
    rw [skip_spaces hb, skip_quote]
  have hcolon : skip (':' :: ' ' :: (renderChars depth v ++ rest)) =
      ':' :: ' ' :: (renderChars depth v ++ rest) := skip_cons rfl _
  have hvalue : readValue? fuel (' ' :: (renderChars depth v ++ rest)) = some (v, rest) := by
    have hspace : IsSpaces [' '] := by simp [IsSpaces, isSpace]
    exact (readValue?_spaces hspace fuel _).trans (h fuel rest hfuel)
  simp only [readMembers?, hkey, unquote?_quote, hcolon, hvalue, String.ofList_toList]
  rfl

theorem readMembers?_render {depth : Nat} {tail rest : List Char}
    (htail : skip tail = '}' :: rest) :
    ∀ (ms : List (String × Json)) (m : String × Json), (∀ n ∈ m :: ms, Reads depth n.2) →
    ∀ (fuel : Nat) (b : List Char), IsSpaces b →
    2 * (renderChars depth m.2 ++ renderMembers depth ms).length < fuel →
    readMembers? fuel (b ++ (quote m.1.toList ++ ':' :: ' ' :: (renderChars depth m.2 ++
      (renderMembers depth ms ++ tail)))) = some (m :: ms, rest)
  | ms, m, h, 0, b, hb, hfuel => by omega
  | [], m, h, fuel + 1, b, hb, hfuel => by
    simp only [renderMembers, List.append_nil] at hfuel
    rw [readMembers?_member (h m List.mem_cons_self) hb (by omega)]
    simp only [renderMembers, List.nil_append, htail, readAfter]
  | n :: ms, m, h, fuel + 1, b, hb, hfuel => by
    simp only [renderMembers, List.length_append, List.length_cons] at hfuel
    have hcomma : skip (renderMembers depth (n :: ms) ++ tail) =
        ',' :: (newLine depth ++ (quote n.1.toList ++ ':' :: ' ' :: (renderChars depth n.2 ++
          (renderMembers depth ms ++ tail)))) := by
      simp only [renderMembers, List.cons_append, List.append_assoc]
      exact skip_cons rfl _
    have ih := readMembers?_render htail ms n (fun x hx => h x (List.mem_cons_of_mem m hx)) fuel
      (newLine depth) (isSpaces_newLine depth) (by simp only [List.length_append]; omega)
    rw [readMembers?_member (h m List.mem_cons_self) hb (by omega)]
    simp only [hcomma, readAfter, ih, Option.map_some]

/-! ## Whole values -/

theorem skip_newLine_cons (depth : Nat) {c : Char} (hc : isSpace c = false) (s : List Char) :
    skip (newLine depth ++ c :: s) = c :: s := by
  rw [skip_spaces (isSpaces_newLine depth), skip_cons hc]

theorem readValue?_items {s r t : List Char} {c : Char}
    (hs : skip s = '[' :: r) (hr : skip r = c :: t) (hc : c ≠ ']') (fuel : Nat) :
    readValue? (fuel + 1) s =
      (readItems? fuel (c :: t)).map fun (vs, rest) => (.array vs, rest) := by
  simp [readValue?, hs, hr, hc]

theorem readValue?_members {s r t : List Char} {c : Char}
    (hs : skip s = '{' :: r) (hr : skip r = c :: t) (hc : c ≠ '}') (fuel : Nat) :
    readValue? (fuel + 1) s = (readMembers? fuel (c :: t)).map fun (ms, rest) =>
      (.object ms, rest) := by
  simp [readValue?, hs, hr, hc]

theorem Reads.of_step {depth : Nat} {v : Json} (hne : renderChars depth v ≠ [])
    (h : ∀ (fuel : Nat) (rest : List Char), 2 * (renderChars depth v).length ≤ fuel + 1 →
      readValue? (fuel + 1) (renderChars depth v ++ rest) = some (v, rest)) : Reads depth v := by
  intro fuel rest hfuel
  cases fuel with
  | zero => exact absurd (List.length_eq_zero_iff.1 (by omega)) hne
  | succ fuel => exact h fuel rest hfuel

theorem reads_string (depth : Nat) (s : String) : Reads depth (.string s) := by
  refine .of_step (by simp [renderChars, quote]) fun fuel rest _ => ?_
  have hquote : skip (renderChars depth (.string s) ++ rest) = '"' ::
      (s.toList.flatMap escape ++ '"' :: rest) :=
    skip_quote _ _
  simp only [readValue?, hquote, unquote?_quote, Option.map_some, String.ofList_toList]

theorem reads_array {depth : Nat} {v : Json} {vs : List Json} (hv : Numberless v)
    (h : ∀ w ∈ v :: vs, Reads (depth + 1) w) : Reads depth (.array (v :: vs)) := by
  refine .of_step (by simp [renderChars]) fun fuel rest hfuel => ?_
  obtain ⟨c, t, hr, hspace, hend⟩ := head_renderChars hv (depth + 1)
  let after := renderItems (depth + 1) vs ++ (newLine depth ++ ']' :: rest)
  have hlist : skip (renderChars depth (.array (v :: vs)) ++ rest) =
      '[' :: (newLine (depth + 1) ++ (renderChars (depth + 1) v ++ after)) := by
    simp only [renderChars, List.cons_append, List.append_assoc]
    exact skip_cons rfl _
  have hfirst :
      skip (newLine (depth + 1) ++ (renderChars (depth + 1) v ++ after)) = c :: (t ++ after) := by
    rw [skip_spaces (isSpaces_newLine _), hr]
    exact skip_cons hspace _
  have hitems : readItems? fuel (renderChars (depth + 1) v ++ after) = some (v :: vs, rest) := by
    apply readItems?_render (skip_newLine_cons depth rfl rest) vs v h fuel []
    · simp [IsSpaces]
    · simp only [renderChars, List.length_cons, List.length_append] at hfuel ⊢
      omega
  rw [readValue?_items hlist hfirst hend, ← List.cons_append, ← hr, hitems]
  rfl

theorem reads_object {depth : Nat} {m : String × Json} {ms : List (String × Json)}
    (h : ∀ n ∈ m :: ms, Reads (depth + 1) n.2) : Reads depth (.object (m :: ms)) := by
  refine .of_step (by simp [renderChars]) fun fuel rest hfuel => ?_
  let after := ':' :: ' ' :: (renderChars (depth + 1) m.2 ++
    (renderMembers (depth + 1) ms ++ (newLine depth ++ '}' :: rest)))
  have hobject : skip (renderChars depth (.object (m :: ms)) ++ rest) =
      '{' :: (newLine (depth + 1) ++ (quote m.1.toList ++ after)) := by
    simp only [renderChars, List.cons_append, List.append_assoc]
    exact skip_cons rfl _
  have hfirst : skip (newLine (depth + 1) ++ (quote m.1.toList ++ after)) =
      '"' :: (m.1.toList.flatMap escape ++ '"' :: after) := by
    rw [skip_spaces (isSpaces_newLine _), skip_quote]
  have hmembers : readMembers? fuel (quote m.1.toList ++ after) = some (m :: ms, rest) := by
    apply readMembers?_render (skip_newLine_cons depth rfl rest) ms m h fuel []
    · simp [IsSpaces]
    · simp only [renderChars, List.length_cons, List.length_append] at hfuel ⊢
      omega
  have hquote : quote m.1.toList ++ after = '"' :: (m.1.toList.flatMap escape ++ '"' :: after) := by
    simp [quote]
  rw [readValue?_members hobject hfirst (by decide), ← hquote, hmembers]
  rfl

/-- A value is read from its text at any depth, whatever follows it. -/
theorem readValue?_render {v : Json} (h : Numberless v) : ∀ depth, Reads depth v := by
  induction h with
  | null => exact fun depth => .of_step (by simp [renderChars]) fun fuel rest _ => rfl
  | boolean b =>
    intro depth
    refine .of_step (by cases b <;> simp [renderChars]) fun fuel rest _ => ?_
    cases b <;> rfl
  | string s => exact fun depth => reads_string depth s
  | @array items h ih =>
    intro depth
    cases items with
    | nil => exact .of_step (by simp [renderChars]) fun fuel rest _ => rfl
    | cons v vs => exact reads_array (h v List.mem_cons_self) fun w hw => ih w hw (depth + 1)
  | @object members _ ih =>
    intro depth
    cases members with
    | nil => exact .of_step (by simp [renderChars]) fun fuel rest _ => rfl
    | cons m ms => exact reads_object fun n hn => ih n hn (depth + 1)

/-- A document is read from its text, which may end in spaces. -/
theorem parse?_render {v : Json} (h : Numberless v) {b : List Char} (hb : IsSpaces b) :
    parse? (v.render ++ String.ofList b) = some v := by
  have htext : (v.render ++ String.ofList b).toList = renderChars 0 v ++ b := by simp [render]
  have hfuel : 2 * (renderChars 0 v).length ≤ 2 * (renderChars 0 v ++ b).length + 2 := by
    rw [List.length_append]
    omega
  have hend : skip b = [] := by simpa [skip] using skip_spaces hb []
  simp only [parse?, htext, readValue?_render h 0 _ b hfuel, hend, if_true]

end FetchPlan.Json
