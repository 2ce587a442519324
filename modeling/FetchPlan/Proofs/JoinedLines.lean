import FetchPlan.Proofs.RequirementLines
import Mathlib.Data.List.DropRight

/-!
What joining continued lines does to a text. The lines of a text are its pieces between line
feeds, each without the carriage return before its line feed (`lines_eq_physicalLines`). What
waits to be continued is, at each line, what the continued lines just before it give
(`joined_joinLines`), so lines go together in groups (`Joined`): each line that is not continued
closes one group, and only continued lines at the end of the text make a group without such a
line. The groups are determined by the lines (`joined_iff`), nothing of their text is lost but
backslashes (`Joined.flatten_eq`), and nothing goes out of its order (`Joined.ends`). A carriage
return at the end of the text, without a line feed after it, stays, and then the backslash before
it continues nothing (`bare_return_kept`).

What is proved of every text, without any hypothesis: `JoinsInto` holds between the lines as they
stand and the lines after joining. It fixes the groups, so two ways of joining that both satisfy
it are the same.
-/
namespace FetchPlan.Requirements

/-- The pieces of a text that a line feed ends. -/
def endedPieces (text : List Char) : List (List Char) := (Text.fields (· == '\n') text).dropLast

/-- The piece after the last line feed, where it holds anything. -/
def openPiece (text : List Char) :
    List (List Char) := (Text.fields (· == '\n') text).getLast?.toList.filter (· ≠ [])

/-- The lines of a text as they stand in it, without their line feeds and the carriage returns that
belong to these. -/
def physicalLines (text : List Char) :
    List (List Char) := (endedPieces text).map withoutReturn ++ openPiece text

/-- The pieces of a text, each without a carriage return at its end, also where no line feed comes
after it. -/
def strippedPieces (text : List Char) :
    List (List Char) := (endedPieces text ++ openPiece text).map withoutReturn

/-- Whether a line goes on in the next one. -/
def GoesOn (p : List Char) : Prop := p.getLast? = some '\\'

instance (p : List Char) : Decidable (GoesOn p) := inferInstanceAs (Decidable (_ = _))

/-- A line as it goes into a joined one: a space stands for the backslash by which it goes on. -/
def spaced (p : List Char) : List Char := if GoesOn p then p.dropLast ++ [' '] else p

/-- How lines go together, group by group. -/
inductive Joined : List (List Char) → List (List Char) → Prop
  | none : Joined [] []
  /-- Continued lines, and the one that ends them. -/
  | line {cs ps ls : List (List Char)} {p : List Char} : (∀ c ∈ cs, GoesOn c) →
    ¬ GoesOn p → Joined ps ls →
      Joined (cs ++ p :: ps) ((cs.flatMap spaced ++ p) :: ls)
  /-- Continued lines that nothing ends. -/
  | rest {cs : List (List Char)} : cs ≠ [] → (∀ c ∈ cs, GoesOn c) → Joined cs [cs.flatMap spaced]

def restLine (ps : List (List Char)) : List (List Char) :=
  let cs := ps.rtakeWhile fun p => GoesOn p
  if cs = [] then [] else [cs.flatMap spaced]

/-- What is promised of lines and of those that they are joined to. -/
structure JoinsInto (ps ls : List (List Char)) : Prop where
  /-- No text is lost: there is a space for each backslash that continues a line, and all else
  stays. -/
  flatten_eq : ls.flatten = ps.flatMap spaced
  /-- The lines go together in their order, and in no other way. -/
  joined_iff : ∀ ls', Joined ps ls' ↔ ls' = ls
  /-- Each line that is not continued ends one joined line, in their order, and there is one more
  joined line at most, of the continued lines at the end. -/
  ends : ∃ ended, ls = ended ++ restLine ps ∧ List.Forall₂ (· <:+ ·) (ps.filter (¬ GoesOn ·)) ended

/-! ## Lines of a text -/

theorem lines_of_unended : ∀ {c : List Char}, '\n' ∉ c → c ≠ [] → Text.lines c = [c]
  | [x], h, _ => by
    have hx : x ≠ '\n' := by simpa [eq_comm] using h
    rw [lines_cons hx (by simp)]
    rfl
  | x :: y :: c, h, _ => by
    obtain ⟨hx, hc⟩ : '\n' ≠ x ∧ '\n' ∉ y :: c := by simpa using h
    have hy : (y :: c).head? ≠ some '\n' := by
      intro hy
      exact hc (List.mem_of_mem_head? hy)
    rw [lines_cons (Ne.symm hx) fun _ => hy, lines_of_unended hc (by simp)]
    rfl

theorem physicalLines_of_unended {c : List Char} (h : '\n' ∉ c) :
    physicalLines c = if c = [] then [] else [c] := by
  have hfields : Text.fields (· == '\n') c = [c] :=
    Text.fields_of_none (Text.beq_false_of_not_mem h)
  unfold physicalLines endedPieces openPiece
  rw [hfields]
  by_cases hc : c = [] <;> simp [hc]

theorem physicalLines_append_lineFeed {c : List Char} (h : '\n' ∉ c) (r : List Char) :
    physicalLines (c ++ '\n' :: r) = withoutReturn c :: physicalLines r := by
  have hfields : Text.fields (· == '\n') (c ++ '\n' :: r) = c :: Text.fields (· == '\n') r :=
    Text.fields_append rfl r (Text.beq_false_of_not_mem h)
  have hne : Text.fields (· == '\n') r ≠ [] := Text.fields_ne_nil r
  unfold physicalLines endedPieces openPiece
  rw [hfields, List.dropLast_cons_of_ne_nil hne, List.getLast?_cons_of_ne_nil hne]
  rfl

theorem lines_eq_physicalLines (text : List Char) : Text.lines text = physicalLines text := by
  cases hcut : Text.cut (· == '\n') text with
  | none =>
    have h : '\n' ∉ text := Text.cut_beq_eq_none.1 hcut
    rw [physicalLines_of_unended h]
    by_cases htext : text = []
    · subst htext
      rfl
    · rw [lines_of_unended h htext, if_neg htext]
  | some parts =>
    obtain ⟨c, r⟩ := parts
    obtain ⟨h, htext⟩ := Text.cut_beq_eq_some.1 hcut
    have hlength : r.length < text.length := by
      rw [htext]
      simp only [List.length_append, List.length_cons]
      omega
    rw [htext, lines_append_lineFeed, lines_of_oneLine h, physicalLines_append_lineFeed h,
      lines_eq_physicalLines r]
    rfl
  termination_by text.length

/-! ## Groups of lines -/

theorem joinLines_cons_of_goesOn {p : List Char} (h : GoesOn p) (pending : List Char)
    (ps : List (List Char)) : joinLines pending (p :: ps) = joinLines (pending ++ spaced p) ps := by
  have hp : p.getLast? = some '\\' := h
  simp [joinLines, continued?, spaced, h, hp]

theorem joinLines_cons_of_not_goesOn {p : List Char} (h : ¬ GoesOn p) (pending : List Char)
    (ps : List (List Char)) : joinLines pending (p :: ps) = (pending ++ p) :: joinLines [] ps := by
  have hp : ¬ p.getLast? = some '\\' := h
  simp [joinLines, continued?, hp]

/-- What waits to be continued holds a space for each line that it is made of. -/
theorem flatMap_spaced_eq_nil {cs : List (List Char)} (h : ∀ c ∈ cs, GoesOn c) :
    cs.flatMap spaced = [] ↔ cs = [] := by
  cases cs with
  | nil => simp
  | cons c cs =>
    have hc := h c List.mem_cons_self
    simp [spaced, hc]

/-- What waits to be continued is what the continued lines before it give: a line that is continued
is added to them, and any other one ends them. -/
theorem joined_joinLines : ∀ (ps cs : List (List Char)), (∀ c ∈ cs, GoesOn c) →
    Joined (cs ++ ps) (joinLines (cs.flatMap spaced) ps)
  | [], cs, hcs => by
    rw [List.append_nil, joinLines]
    by_cases hnil : cs = []
    · subst hnil
      exact .none
    · rw [if_neg (mt (flatMap_spaced_eq_nil hcs).1 hnil)]
      exact .rest hnil hcs
  | p :: ps, cs, hcs => by
    by_cases hp : GoesOn p
    · have hcs' : ∀ c ∈ cs ++ [p], GoesOn c := by
        intro c hc
        rcases List.mem_append.1 hc with hc | hc
        · exact hcs c hc
        · exact List.mem_singleton.1 hc ▸ hp
      have ih := joined_joinLines ps (cs ++ [p]) hcs'
      rw [joinLines_cons_of_goesOn hp]
      simpa using ih
    · rw [joinLines_cons_of_not_goesOn hp]
      exact .line hcs hp (joined_joinLines ps [] (by simp))

theorem joinLines_append_goesOn (ps : List (List Char)) :
    ∀ {cs : List (List Char)} (pending : List Char),
    (∀ c ∈ cs, GoesOn c) → joinLines pending (cs ++ ps) = joinLines
    (pending ++ cs.flatMap spaced) ps
  | [], pending, _ => by simp
  | c :: cs, pending, h => by
    have ih :=
      joinLines_append_goesOn ps (pending ++ spaced c) fun d hd => h d (List.mem_cons_of_mem c hd)
    rw [List.cons_append, joinLines_cons_of_goesOn (h c List.mem_cons_self), ih, List.flatMap_cons,
      List.append_assoc]

/-- Lines up to one that is not continued leave the rest to those after it. -/
theorem restLine_append {p : List Char} (hp : ¬ GoesOn p) (cs ps : List (List Char)) :
    restLine (cs ++ p :: ps) = restLine ps := by
  have hstop :
      (cs ++ p :: ps).rtakeWhile (fun p => GoesOn p) = ps.rtakeWhile fun p => GoesOn p := by
    induction ps using List.reverseRecOn with
    | nil => rw [List.rtakeWhile_concat_neg _ _ _ (by simpa using hp), List.rtakeWhile_nil]
    | append_singleton ps q ih =>
      rw [← List.cons_append, ← List.append_assoc]
      by_cases hq : GoesOn q
      · have htaken (xs : List (List Char)) :=
          List.rtakeWhile_concat_pos (fun p => GoesOn p) xs q (by simpa using hq)
        rw [htaken, htaken, ih]
      · have hleft (xs : List (List Char)) :=
          List.rtakeWhile_concat_neg (fun p => GoesOn p) xs q (by simpa using hq)
        rw [hleft, hleft]
  unfold restLine
  rw [hstop]

theorem filter_not_goesOn {cs : List (List Char)} (h : ∀ c ∈ cs, GoesOn c) :
    cs.filter (¬ GoesOn ·) = [] := by
  rw [List.filter_eq_nil_iff]
  intro c hc
  simpa using h c hc

namespace Joined

variable {ps ls : List (List Char)}

theorem eq_joinLines (h : Joined ps ls) : ls = joinLines [] ps := by
  induction h with
  | none => rfl
  | @line cs ps ls p hcs hp _ ih =>
    rw [joinLines_append_goesOn _ _ hcs, joinLines_cons_of_not_goesOn hp, ← ih]
    rfl
  | @rest cs hne hcs =>
    have hpending : cs.flatMap spaced ≠ [] := mt (flatMap_spaced_eq_nil hcs).1 hne
    have hjoin := joinLines_append_goesOn [] [] hcs
    rw [List.append_nil, List.nil_append, joinLines, if_neg hpending] at hjoin
    exact hjoin.symm

theorem flatten_eq (h : Joined ps ls) : ls.flatten = ps.flatMap spaced := by
  induction h with
  | none => rfl
  | @line cs ps ls p _ hp _ ih =>
    have hspaced : spaced p = p := if_neg hp
    rw [List.flatten_cons, ih, List.flatMap_append, List.flatMap_cons, hspaced, List.append_assoc]
  | rest => simp

theorem ends (h : Joined ps ls) :
    ∃ ended, ls = ended ++ restLine ps ∧ List.Forall₂ (· <:+ ·) (ps.filter (¬ GoesOn ·)) ended := by
  induction h with
  | none => exact ⟨[], rfl, .nil⟩
  | @line cs ps ls p hcs hp _ ih =>
    obtain ⟨ended, hls, hends⟩ := ih
    refine ⟨(cs.flatMap spaced ++ p) :: ended, ?_, ?_⟩
    · rw [restLine_append hp, hls]
      rfl
    · rw [List.filter_append, filter_not_goesOn hcs, List.filter_cons_of_pos (by simpa using hp)]
      exact .cons (List.suffix_append _ _) hends
  | @rest cs hne hcs =>
    have hall : cs.rtakeWhile (fun p => GoesOn p) = cs :=
      List.rtakeWhile_eq_self_iff.2 (by simpa using hcs)
    refine ⟨[], ?_, ?_⟩
    · simp [restLine, hall, hne]
    · rw [filter_not_goesOn hcs]
      exact .nil

end Joined

theorem joined_iff {ps ls : List (List Char)} : Joined ps ls ↔ ls = joinLines [] ps := by
  constructor
  · exact Joined.eq_joinLines
  · rintro rfl
    exact joined_joinLines ps [] (by simp)

/-- Joining the continued lines of a text loses nothing of it. -/
theorem logicalLines_join (text : List Char) :
    JoinsInto (physicalLines text) (logicalLines text) := by
  have hlines : logicalLines text = joinLines [] (physicalLines text) := by
    rw [logicalLines, lines_eq_physicalLines]
  have hjoined : Joined (physicalLines text) (logicalLines text) := joined_iff.2 hlines
  refine ⟨hjoined.flatten_eq, fun ls => ?_, hjoined.ends⟩
  rw [hlines]
  exact joined_iff

example : logicalLines "a \\\r\n\\\n b\\\\\n\nc\r\n\r\nd\\".toList =
    ["a    b\\ ", "c", "", "d "].map String.toList := by decide

/-- The carriage return at the end of a text does not belong to a line end: dropped there as
elsewhere, it would leave a line that goes on. -/
theorem bare_return_kept :
    logicalLines "a==1\\\r".toList = ["a==1\\\r".toList] ∧
    strippedPieces "a==1\\\r".toList = ["a==1\\".toList] ∧
      ¬ JoinsInto (strippedPieces "a==1\\\r".toList) (logicalLines "a==1\\\r".toList) ∧
      parse "r" "a==1\\\r" = .ok ⟨none, false, [⟨"a", [], none, [], .version "1\\"⟩]⟩ := by
  refine ⟨by decide, by decide, fun h => ?_, by rfl⟩
  exact absurd h.flatten_eq (by decide)

end FetchPlan.Requirements
