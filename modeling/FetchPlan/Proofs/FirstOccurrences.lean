import FetchPlan.Artifact
import Mathlib.Data.List.Nodup

/-!
The first component of each package URL. What is kept of a list of components is a part of it, in
its order (`firstOfEach_sublist`), in which each package URL of the list stands once
(`nodup_firstOfEach`, `mem_purl_firstOfEach`), in the order in which the list first has them
(`idxOf_firstOfEach`). A component is kept when it is the first one with its package URL
(`mem_firstOfEach`). What was seen stands for the part of the list that was read, so the places
that are kept are those before which the package URL does not stand (`first_occurrences_kept`),
and a list may be reduced part by part (`firstOfEach_append_left`).

Nothing is assumed of the components, so all of this also holds where two of them agree in
everything, and for lists that are reduced again or in parts.
-/
namespace FetchPlan.Component

theorem mem_firstOfEachFrom {cs : List Component} {c : Component} : ∀ {seen : List String},
    c ∈ firstOfEachFrom seen cs ↔ c.purl ∉ seen ∧ cs.find? (·.purl == c.purl) = some c := by
  induction cs with
  | nil => simp [firstOfEachFrom]
  | cons d cs ih =>
    intro seen
    by_cases hd : d.purl ∈ seen
    · rw [firstOfEachFrom, if_pos hd, ih]
      by_cases hc : d.purl = c.purl
      · simp [← hc, hd]
      · simp [hc]
    · rw [firstOfEachFrom, if_neg hd, List.mem_cons, ih]
      by_cases hc : d.purl = c.purl
      · simp [← hc, hd, eq_comm]
      · have hne : c ≠ d := fun he => hc (he ▸ rfl)
        simp [hc, Ne.symm hc, hne]

/-- A component is kept when it is the first one with its package URL. -/
theorem mem_firstOfEach {cs : List Component} {c : Component} :
    c ∈ firstOfEach cs ↔ cs.find? (·.purl == c.purl) = some c := by
  simp [firstOfEach, mem_firstOfEachFrom]

theorem firstOfEachFrom_sublist : ∀ (seen : List String) (cs : List Component),
    (firstOfEachFrom seen cs).Sublist cs
  | _, [] => .slnil
  | seen, c :: cs => by
    rw [firstOfEachFrom]
    split
    · exact (firstOfEachFrom_sublist seen cs).cons c
    · exact (firstOfEachFrom_sublist (c.purl :: seen) cs).cons_cons c

theorem firstOfEach_sublist (cs : List Component) :
    (firstOfEach cs).Sublist cs := firstOfEachFrom_sublist [] cs

theorem not_seen_of_mem {seen : List String} {cs : List Component} {purl : String}
    (h : purl ∈ (firstOfEachFrom seen cs).map Component.purl) : purl ∉ seen := by
  obtain ⟨c, hc, rfl⟩ := List.mem_map.1 h
  exact (mem_firstOfEachFrom.1 hc).1

theorem nodup_firstOfEachFrom : ∀ (seen : List String) (cs : List Component),
    ((firstOfEachFrom seen cs).map Component.purl).Nodup
  | _, [] => .nil
  | seen, c :: cs => by
    rw [firstOfEachFrom]
    split
    · exact nodup_firstOfEachFrom seen cs
    · rw [List.map_cons, List.nodup_cons]
      exact ⟨fun h => not_seen_of_mem h List.mem_cons_self,
        nodup_firstOfEachFrom (c.purl :: seen) cs⟩

theorem nodup_firstOfEach (cs : List Component) : ((firstOfEach cs).map Component.purl).Nodup :=
  nodup_firstOfEachFrom [] cs

theorem mem_purl_firstOfEach {cs : List Component} {purl : String} :
    purl ∈ (firstOfEach cs).map Component.purl ↔ purl ∈ cs.map Component.purl := by
  constructor
  · exact fun h => ((firstOfEach_sublist cs).map Component.purl).subset h
  · intro h
    obtain ⟨c, hc, rfl⟩ := List.mem_map.1 h
    cases hfind : cs.find? (·.purl == c.purl) with
    | none =>
      have hnone := List.find?_eq_none.1 hfind c hc
      simp at hnone
    | some d =>
      have hd : d.purl = c.purl := by simpa using List.find?_some hfind
      exact List.mem_map.2 ⟨d, mem_firstOfEach.2 (hd ▸ hfind), hd⟩

theorem idxOf_firstOfEachFrom : ∀ (seen : List String) (cs : List Component),
    ((firstOfEachFrom seen cs).map Component.purl).Pairwise fun p q =>
      (cs.map Component.purl).idxOf p < (cs.map Component.purl).idxOf q
  | _, [] => .nil
  | seen, c :: cs => by
    -- behind a component, the package URLs that are not its own are first found one place later
    have hbehind : ∀ seen : List String, c.purl ∈ seen →
        ((firstOfEachFrom seen cs).map Component.purl).Pairwise fun p q =>
          ((c :: cs).map Component.purl).idxOf p < ((c :: cs).map Component.purl).idxOf q := by
      intro seen hc
      refine (idxOf_firstOfEachFrom seen cs).imp_of_mem fun {p q} hp hq hlt => ?_
      have hcp : c.purl ≠ p := fun he => not_seen_of_mem hp (he ▸ hc)
      have hcq : c.purl ≠ q := fun he => not_seen_of_mem hq (he ▸ hc)
      rw [List.map_cons, List.idxOf_cons_ne _ hcp, List.idxOf_cons_ne _ hcq]
      exact Nat.succ_lt_succ hlt
    rw [firstOfEachFrom]
    split
    · next hc => exact hbehind seen hc
    · rw [List.map_cons]
      refine .cons (fun q hq => ?_) (hbehind (c.purl :: seen) List.mem_cons_self)
      have hcq : c.purl ≠ q := fun he => not_seen_of_mem hq (he ▸ List.mem_cons_self)
      rw [List.idxOf_cons_self, List.idxOf_cons_ne _ hcq]
      exact Nat.succ_pos _

theorem idxOf_firstOfEach (cs : List Component) :
    ((firstOfEach cs).map Component.purl).Pairwise fun p q =>
      (cs.map Component.purl).idxOf p < (cs.map Component.purl).idxOf q :=
  idxOf_firstOfEachFrom [] cs

/-! ## Lists that are put together -/

/-- What was seen counts as a set: neither its order nor its repetitions matter. -/
theorem firstOfEachFrom_congr : ∀ (cs : List Component) {seen seen' : List String},
    (∀ purl, purl ∈ seen ↔ purl ∈ seen') → firstOfEachFrom seen cs = firstOfEachFrom seen' cs
  | [], _, _, _ => rfl
  | c :: cs, seen, seen', h => by
    have hcons : ∀ purl, purl ∈ c.purl :: seen ↔ purl ∈ c.purl :: seen' := fun purl => by
      rw [List.mem_cons, List.mem_cons, h purl]
    rw [firstOfEachFrom, firstOfEachFrom, firstOfEachFrom_congr cs h,
      firstOfEachFrom_congr cs hcons]
    simp only [h c.purl]

/-- Behind a list, its package URLs have been seen. -/
theorem firstOfEachFrom_append : ∀ (seen : List String) (cs ds : List Component),
    firstOfEachFrom seen (cs ++ ds) = firstOfEachFrom seen cs ++
      firstOfEachFrom (cs.map purl ++ seen) ds
  | _, [], _ => rfl
  | seen, c :: cs, ds => by
    rw [List.cons_append, firstOfEachFrom, firstOfEachFrom]
    split
    · next hc =>
      have hseen : ∀ u, u ∈ cs.map purl ++ seen ↔ u ∈ (c :: cs).map purl ++ seen := fun u => by
        simp only [List.map_cons, List.cons_append, List.mem_cons, List.mem_append]
        exact ⟨.inr, fun h => h.elim (fun hu => .inr (hu ▸ hc)) id⟩
      rw [firstOfEachFrom_append seen cs ds, firstOfEachFrom_congr ds hseen]
    · have hseen : ∀ u, u ∈ cs.map purl ++ c.purl :: seen ↔ u ∈ (c :: cs).map purl ++ seen := by
        intro u
        simp only [List.map_cons, List.cons_append, List.mem_cons, List.mem_append]
        exact or_left_comm
      rw [firstOfEachFrom_append (c.purl :: seen) cs ds, firstOfEachFrom_congr ds hseen,
        List.cons_append]

theorem firstOfEach_append (cs ds : List Component) :
    firstOfEach (cs ++ ds) = firstOfEach cs ++ firstOfEachFrom (cs.map purl) ds := by
  rw [firstOfEach, firstOfEachFrom_append, List.append_nil, firstOfEach]

/-- A list in which no package URL stands twice, nor one that was seen, is kept as it is. -/
theorem firstOfEachFrom_of_nodup : ∀ (cs : List Component) {seen : List String},
    (cs.map purl).Nodup → (∀ c ∈ cs, c.purl ∉ seen) → firstOfEachFrom seen cs = cs
  | [], _, _, _ => rfl
  | c :: cs, seen, hnodup, hseen => by
    obtain ⟨hc, hnodup⟩ := List.nodup_cons.1 hnodup
    have hrest : ∀ d ∈ cs, d.purl ∉ c.purl :: seen := by
      intro d hd hmem
      rcases List.mem_cons.1 hmem with he | hmem
      · exact hc (he ▸ List.mem_map_of_mem hd)
      · exact hseen d (List.mem_cons_of_mem c hd) hmem
    rw [firstOfEachFrom, if_neg (hseen c List.mem_cons_self),
      firstOfEachFrom_of_nodup cs hnodup hrest]

theorem firstOfEach_firstOfEach (cs : List Component) :
    firstOfEach (firstOfEach cs) = firstOfEach cs :=
  firstOfEachFrom_of_nodup _ (nodup_firstOfEach cs) fun _ _ => List.not_mem_nil

theorem firstOfEach_append_left (cs ds : List Component) :
    firstOfEach (firstOfEach cs ++ ds) = firstOfEach (cs ++ ds) := by
  rw [firstOfEach_append, firstOfEach_append, firstOfEach_firstOfEach,
    firstOfEachFrom_congr ds fun u => mem_purl_firstOfEach]

/-! ## Places of first occurrences -/

/-- The components before which their package URL does not stand, each judged by its place in the
list. -/
def unprecedented (cs : List Component) : List Component :=
  (cs.zipIdx.filter fun (c, i) => c.purl ∉ (cs.take i).map purl).map Prod.fst

/-- What was seen is what stands before: `before` is the part of the list that was read. -/
theorem firstOfEachFrom_eq_unprecedented : ∀ (cs before : List Component) {seen : List String},
    (∀ u, u ∈ seen ↔ u ∈ before.map purl) →
    firstOfEachFrom seen cs = ((cs.zipIdx before.length).filter fun (c, i) =>
      c.purl ∉ ((before ++ cs).take i).map purl).map Prod.fst
  | [], _, _, _ => rfl
  | c :: cs, before, seen, h => by
    have hplace : (before ++ c :: cs).take before.length = before := List.take_left
    have hnext : before ++ c :: cs = (before ++ [c]) ++ cs := by simp
    have hlength : before.length + 1 = (before ++ [c]).length := by simp
    rw [firstOfEachFrom, List.zipIdx_cons, List.filter_cons]
    simp only [hplace, ← h c.purl]
    rw [hnext, hlength]
    by_cases hc : c.purl ∈ seen
    · have hseen : ∀ u, u ∈ seen ↔ u ∈ (before ++ [c]).map purl := fun u => by
        simp only [List.map_append, List.mem_append, ← h u, List.map_cons, List.map_nil,
          List.mem_singleton]
        exact ⟨.inl, fun hu => hu.elim id fun he => he ▸ hc⟩
      simp only [hc, if_true, not_true_eq_false, decide_false, Bool.false_eq_true, if_false]
      exact firstOfEachFrom_eq_unprecedented cs (before ++ [c]) hseen
    · have hseen : ∀ u, u ∈ c.purl :: seen ↔ u ∈ (before ++ [c]).map purl := fun u => by
        simp only [List.map_append, List.mem_append, ← h u, List.map_cons, List.map_nil,
          List.mem_cons, List.not_mem_nil, or_false]
        exact or_comm
      simp only [hc, if_false, not_false_eq_true, decide_true, if_true, List.map_cons]
      rw [firstOfEachFrom_eq_unprecedented cs (before ++ [c]) hseen]

theorem firstOfEach_eq_unprecedented (cs : List Component) : firstOfEach cs = unprecedented cs :=
  firstOfEachFrom_eq_unprecedented cs [] fun _ => Iff.rfl

/-- Of each package URL the first component is kept, and nothing else: what is kept are the
components that stand at a place before which their package URL does not stand, in their order.
Keeping first components again changes nothing, and neither does keeping them in the first part of
a list beforehand. -/
theorem first_occurrences_kept (cs : List Component) :
    (firstOfEach cs).Sublist cs ∧ ((firstOfEach cs).map purl).Nodup ∧
    (∀ u ∈ cs.map purl, ∃ c ∈ firstOfEach cs, cs.find? (·.purl == u) = some c) ∧
    firstOfEach cs = unprecedented cs ∧
    firstOfEach (firstOfEach cs) = firstOfEach cs ∧
    ∀ ds, firstOfEach (cs ++ ds) = firstOfEach (firstOfEach cs ++ ds) := by
  refine ⟨firstOfEach_sublist cs, nodup_firstOfEach cs, fun u hu => ?_,
    firstOfEach_eq_unprecedented cs,
    firstOfEach_firstOfEach cs, fun ds => (firstOfEach_append_left cs ds).symm⟩
  obtain ⟨c, hc, rfl⟩ := List.mem_map.1 (mem_purl_firstOfEach.2 hu)
  exact ⟨c, hc, mem_firstOfEach.1 hc⟩

/-- Components with one package URL may differ in what else they say, and the first one is kept as
it is. -/
example : firstOfEach [⟨"p", none, "pkg:pypi/p", [⟨"flag", "a"⟩]⟩, ⟨"q", none, "pkg:pypi/q", []⟩,
    ⟨"p", none, "pkg:pypi/p", []⟩] =
      [⟨"p", none, "pkg:pypi/p", [⟨"flag", "a"⟩]⟩, ⟨"q", none, "pkg:pypi/q", []⟩] := by
  decide

end FetchPlan.Component
