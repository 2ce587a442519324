import FetchPlan.Proofs.MergedComponents
import Mathlib.Data.List.Sort

/-!
The flags of a component. A flag that is added is put where it belongs, so the list of flags stays
ascending (`ascends_insertProperty`), and no other flag comes or goes (`mem_insertProperty`). An
ascending list is told by its members (`eq_of_ascends`), so the order in which flags are added,
and how often, does not show (`withProperties_sorted`). In an ascending list halving finds a flag,
or else the only place where it belongs (`located_search`), so putting it where the search says is
the same as walking there (`insertAt_search`).

What is proved of any list of flags: the result ascends strictly, holds the flags and no others,
does not depend on order and repetition, and is what a binary search puts together. The name, the
version and the package URL of the component stay.
-/
namespace FetchPlan

/-- Whether a flag comes before another one: by the bytes of its name or, where the names are the
same, by those of its value. -/
def Property.Before (q r : Property) : Prop :=
  Text.utf8 q.name.toList < Text.utf8 r.name.toList ∨
    q.name = r.name ∧ Text.utf8 q.value.toList < Text.utf8 r.value.toList

namespace Component

theorem compare_text_lt {s t : String} :
    compare s t = .lt ↔ Text.utf8 s.toList < Text.utf8 t.toList := by
  rw [Text.utf8_lt_iff, ← String.lt_iff]
  exact compareOfLessAndEq_eq_lt

theorem compare_lt_iff_before {q r : Property} : compare q r = .lt ↔ q.Before r := by
  rw [compare_property, Ordering.then_eq_lt, compare_text_lt, compare_text_lt,
    Std.compare_eq_iff_eq]
  rfl

theorem compare_self_ne_lt (q : Property) : compare q q ≠ .lt := by
  rw [Std.compare_self]
  decide

/-- Whether each flag of a list comes before those behind it. -/
def Ascends (ps : List Property) : Prop := ps.Pairwise fun p r => compare p r = .lt

/-! ## Putting a flag where it belongs -/

theorem mem_insertProperty {p q : Property} :
    ∀ {ps : List Property}, p ∈ insertProperty q ps ↔ p = q ∨ p ∈ ps
  | [] => by simp [insertProperty]
  | r :: ps => by
    unfold insertProperty
    split
    · rw [List.mem_cons]
    · next h =>
      obtain rfl : q = r := Std.compare_eq_iff_eq.1 h
      simp
    · rw [List.mem_cons, List.mem_cons, mem_insertProperty]
      exact or_left_comm

theorem ascends_insertProperty (q : Property) :
    ∀ {ps : List Property}, Ascends ps → Ascends (insertProperty q ps)
  | [], _ => List.pairwise_singleton _ _
  | r :: ps, h => by
    obtain ⟨hr, hps⟩ := List.pairwise_cons.1 h
    unfold insertProperty
    split
    · next hlt =>
      refine .cons (fun p hp => ?_) h
      rcases List.mem_cons.1 hp with rfl | hp
      · exact hlt
      · exact Std.TransCmp.lt_trans hlt (hr p hp)
    · exact h
    · next hgt =>
      refine .cons (fun p hp => ?_) (ascends_insertProperty q hps)
      rcases mem_insertProperty.1 hp with rfl | hp
      · exact Std.OrientedCmp.gt_iff_lt.1 hgt
      · exact hr p hp

theorem eq_of_ascends {ps rs : List Property} (hp : Ascends ps) (hr : Ascends rs)
    (h : ∀ q, q ∈ ps ↔ q ∈ rs) : ps = rs := by
  have : Std.Irrefl fun p r : Property => compare p r = .lt := ⟨compare_self_ne_lt⟩
  have : Std.Antisymm fun p r : Property => compare p r = .lt :=
    ⟨fun p r hpr hrp => absurd (Std.TransCmp.lt_trans hpr hrp) (compare_self_ne_lt p)⟩
  exact hp.eq_of_mem_iff hr h

theorem insertProperty_of_mem {q : Property} {ps : List Property} (h : Ascends ps) (hq : q ∈ ps) :
    insertProperty q ps = ps :=
  eq_of_ascends (ascends_insertProperty q h) h fun _ =>
    mem_insertProperty.trans ⟨fun hp => hp.elim (fun he => he ▸ hq) id, .inr⟩

/-- A flag is put between those that come before it and those that come behind it. -/
theorem insertProperty_append {q : Property} {after : List Property}
    (hafter : ∀ p ∈ after, compare q p = .lt) :
    ∀ {before : List Property}, (∀ p ∈ before, compare p q = .lt) →
      insertProperty q (before ++ after) = (before ++ after).insertIdx before.length q
  | [], _ => by
    cases after with
    | nil => rfl
    | cons p after => simp [insertProperty, hafter p List.mem_cons_self]
  | r :: before, h => by
    have hgt : compare q r = .gt := Std.OrientedCmp.gt_iff_lt.2 (h r List.mem_cons_self)
    have ih := insertProperty_append hafter fun p hp => h p (List.mem_cons_of_mem r hp)
    simp only [List.cons_append, insertProperty, hgt, ih, List.length_cons,
      List.insertIdx_succ_cons]

/-! ## Searching by halves -/

/-- Where a flag stands in a list, or where it would have to be put. -/
inductive Spot where
  | taken (i : Nat)
  | free (i : Nat)
  deriving DecidableEq, Repr

def Spot.shift (n : Nat) : Spot → Spot
  | .taken i => .taken (n + i)
  | .free i => .free (n + i)

/-- Looks for a flag in an ascending list: first in its middle, then in the half where it has to
be. -/
def search (q : Property) (ps : List Property) : Spot :=
  match h : ps.drop (ps.length / 2) with
  | [] => .free 0
  | p :: after =>
    have hlength : ps.length - ps.length / 2 = after.length + 1 := by
      simpa using congrArg List.length h
    match compare p q with
    | .lt => (search q after).shift (ps.length / 2 + 1)
    | .eq => .taken (ps.length / 2)
    | .gt => search q (ps.take (ps.length / 2))
  termination_by ps.length
  decreasing_by
    · omega
    · rw [List.length_take]
      omega

def insertAt (q : Property) (ps : List Property) : Spot → List Property
  | .taken _ => ps
  | .free i => ps.insertIdx i q

/-- Whether a spot is right: the flag stands there, or it belongs between what stands before it and
what stands behind it. -/
inductive Located (q : Property) : List Property → Spot → Prop
  | taken {ps : List Property} {i : Nat} : ps[i]? = some q → Located q ps (.taken i)
  | free {before after : List Property} : (∀ p ∈ before, compare p q = .lt) →
      (∀ p ∈ after, compare q p = .lt) → Located q (before ++ after) (.free before.length)

theorem Located.append_left {q : Property} {ps : List Property} {s : Spot} (h : Located q ps s)
    {front : List Property} (hfront : ∀ p ∈ front, compare p q = .lt) :
    Located q (front ++ ps) (s.shift front.length) := by
  cases h with
  | taken hi => exact .taken (by rw [List.getElem?_append_right (by omega)]; simpa using hi)
  | @free before after hbefore hafter =>
    have hboth : ∀ p ∈ front ++ before, compare p q = .lt :=
      fun p hp => (List.mem_append.1 hp).elim (hfront p) (hbefore p)
    have hfree := Located.free hboth hafter
    rw [List.append_assoc, List.length_append] at hfree
    exact hfree

theorem Located.append_right {q : Property} {ps : List Property} {s : Spot} (h : Located q ps s)
    {back : List Property} (hback : ∀ p ∈ back, compare q p = .lt) : Located q (ps ++ back) s := by
  cases h with
  | @taken _ i hi =>
    obtain ⟨hlt, -⟩ := List.getElem?_eq_some_iff.1 hi
    exact .taken (by rw [List.getElem?_append_left hlt]; exact hi)
  | @free before after hbefore hafter =>
    have hboth : ∀ p ∈ after ++ back, compare q p = .lt :=
      fun p hp => (List.mem_append.1 hp).elim (hafter p) (hback p)
    rw [List.append_assoc]
    exact .free hbefore hboth

theorem Ascends.around {before after : List Property} {p : Property}
    (h : Ascends (before ++ p :: after)) :
    Ascends before ∧ Ascends after ∧ (∀ r ∈ before, compare r p = .lt) ∧ ∀ r ∈ after,
    compare p r = .lt := by
  obtain ⟨hbefore, hrest, hacross⟩ := List.pairwise_append.1 h
  obtain ⟨hp, hafter⟩ := List.pairwise_cons.1 hrest
  exact ⟨hbefore, hafter, fun r hr => hacross r hr p List.mem_cons_self, hp⟩

/-- A list is its first half, the flag in the middle and what is behind it. -/
theorem eq_of_drop_half {ps after : List Property} {p : Property}
    (h : ps.drop (ps.length / 2) = p :: after) :
    ps = ps.take (ps.length / 2) ++ p :: after ∧
    (ps.take (ps.length / 2)).length = ps.length / 2 := by
  refine ⟨by rw [← h, List.take_append_drop], ?_⟩
  rw [List.length_take]
  omega

/-- In an ascending list the search gives the right spot. -/
theorem located_search (q : Property) (ps : List Property) (h : Ascends ps) :
    Located q ps (search q ps) := by
  fun_induction search q ps with
  | case1 ps hdrop =>
    -- only an empty list has no middle
    obtain rfl : ps = [] := by
      have hlength := congrArg List.length hdrop
      rw [List.length_drop, List.length_nil] at hlength
      exact List.length_eq_zero_iff.1 (by omega)
    exact @Located.free q [] [] (by simp) (by simp)
  | case2 ps p after hdrop _ hlt ih =>
    obtain ⟨hps, hhalf⟩ := eq_of_drop_half hdrop
    generalize ps.take (ps.length / 2) = before at hps hhalf
    rw [hps] at h
    obtain ⟨-, hafter, hbefore, -⟩ := h.around
    have hfront : ∀ r ∈ before ++ [p], compare r q = .lt := by
      intro r hr
      rcases List.mem_append.1 hr with hr | hr
      · exact Std.TransCmp.lt_trans (hbefore r hr) hlt
      · exact List.mem_singleton.1 hr ▸ hlt
    have hlocated := (ih hafter).append_left hfront
    rw [List.append_assoc, List.singleton_append, ← hps, List.length_append, List.length_singleton,
      hhalf] at hlocated
    exact hlocated
  | case3 ps p after hdrop _ heq =>
    obtain rfl : p = q := Std.compare_eq_iff_eq.1 heq
    exact .taken (by rw [← List.head?_drop, hdrop, List.head?_cons])
  | case4 ps p after hdrop _ hgt ih =>
    obtain ⟨hps, -⟩ := eq_of_drop_half hdrop
    rw [hps] at h
    obtain ⟨hbefore, -, -, hafter⟩ := h.around
    have hqp : compare q p = .lt := Std.OrientedCmp.gt_iff_lt.1 hgt
    have hback : ∀ r ∈ p :: after, compare q r = .lt := by
      intro r hr
      rcases List.mem_cons.1 hr with rfl | hr
      · exact hqp
      · exact Std.TransCmp.lt_trans hqp (hafter r hr)
    have hlocated := (ih hbefore).append_right hback
    rw [← hps] at hlocated
    exact hlocated

/-- A flag that is put at a spot that is right for it is put where it belongs. -/
theorem Located.insertAt_eq {q : Property} {ps : List Property} {s : Spot} (hs : Located q ps s)
    (h : Ascends ps) : insertAt q ps s = insertProperty q ps := by
  cases hs with
  | taken hi => exact (insertProperty_of_mem h (List.mem_of_getElem? hi)).symm
  | free hbefore hafter => exact (insertProperty_append hafter hbefore).symm

theorem insertAt_search (q : Property) {ps : List Property} (h : Ascends ps) :
    insertAt q ps (search q ps) = insertProperty q ps :=
  (located_search q ps h).insertAt_eq h

/-! ## Flags that are added one after the other -/

/-- A component with flags added to it. -/
def withProperties (c : Component) (flags : List Property) : Component :=
  flags.foldl (fun c q => c.withProperty q.name q.value) c

def insertProperties (flags ps : List Property) :
    List Property := flags.foldl (fun ps q => insertProperty q ps) ps

/-- A list with flags put in, each where the search says. -/
def insertSearched (flags ps : List Property) : List Property :=
  flags.foldl (fun ps q => insertAt q ps (search q ps)) ps

theorem withProperties_eq : ∀ (flags : List Property) (c : Component),
    c.withProperties flags = { c with properties := insertProperties flags c.properties }
  | [], _ => rfl
  | q :: flags, c => withProperties_eq flags (c.withProperty q.name q.value)

theorem ascends_insertProperties : ∀ (flags : List Property) {ps : List Property}, Ascends ps →
    Ascends (insertProperties flags ps)
  | [], _, h => h
  | q :: flags, _, h => ascends_insertProperties flags (ascends_insertProperty q h)

theorem mem_insertProperties {p : Property} : ∀ (flags : List Property) {ps : List Property},
    p ∈ insertProperties flags ps ↔ p ∈ flags ∨ p ∈ ps
  | [], ps => by simp [insertProperties]
  | q :: flags, ps => by
    have ih : p ∈ insertProperties (q :: flags) ps ↔ p ∈ flags ∨ p ∈ insertProperty q ps :=
      mem_insertProperties flags
    rw [ih, mem_insertProperty, List.mem_cons]
    exact or_left_comm.trans or_assoc.symm

/-- Each flag is looked for in a list that ascends, as the search needs it. -/
theorem insertSearched_eq : ∀ (flags : List Property) {ps : List Property}, Ascends ps →
    insertSearched flags ps = insertProperties flags ps
  | [], _, _ => rfl
  | q :: flags, ps, h => by
    have ih := insertSearched_eq flags (ascends_insertProperty q h)
    rw [← insertAt_search q h] at ih
    rw [insertProperties, List.foldl_cons, ← insertAt_search q h]
    exact ih

/-- However flags are added to a component, its flags ascend strictly by the bytes of name and
value and are those that were added. They are the same in whatever order and however often they are
added, also when each is put where halving the list finds its place. Name, version and package URL
stay as they are. -/
theorem withProperties_sorted (p : PackageUrl) (flags : List Property) :
    ((ofPurl p).withProperties flags).properties.Pairwise Property.Before ∧
    (∀ q, q ∈ ((ofPurl p).withProperties flags).properties ↔ q ∈ flags) ∧
    (∀ flags', (∀ q, q ∈ flags' ↔ q ∈ flags) →
      (ofPurl p).withProperties flags' = (ofPurl p).withProperties flags) ∧
    ((ofPurl p).withProperties flags).properties = insertSearched flags [] ∧
    ((ofPurl p).withProperties flags).name = p.name ∧
    ((ofPurl p).withProperties flags).version = p.version ∧
    ((ofPurl p).withProperties flags).purl = p.render := by
  have hascends : ∀ flags, Ascends (insertProperties flags []) :=
    fun flags => ascends_insertProperties flags .nil
  have hmem : ∀ flags q, q ∈ insertProperties flags [] ↔ q ∈ flags := fun flags q => by
    simp [mem_insertProperties]
  simp only [withProperties_eq]
  refine ⟨?_, hmem flags, fun flags' h => ?_, (insertSearched_eq flags .nil).symm, rfl, rfl, rfl⟩
  · exact (hascends flags).imp compare_lt_iff_before.1
  · have hsame : insertProperties flags' [] = insertProperties flags [] :=
      eq_of_ascends (hascends flags') (hascends flags) fun q => by rw [hmem, hmem, h]
    exact congrArg (fun ps => { ofPurl p with properties := ps }) hsame

/-- Flags as they come, one of them twice, and some with the same name. -/
def scatteredFlags : List Property :=
  [⟨"b", "1"⟩, ⟨"𐍈", ""⟩, ⟨"a", "2"⟩, ⟨"ａ", ""⟩, ⟨"b", "1"⟩, ⟨"a", "10"⟩]

def gatheredFlags : List Property := [⟨"a", "10"⟩, ⟨"a", "2"⟩, ⟨"b", "1"⟩, ⟨"ａ", ""⟩, ⟨"𐍈", ""⟩]

theorem withProperties_sorted_scattered :
    (∀ q, q ∈ scatteredFlags ↔ q ∈ gatheredFlags) ∧
    (ofPurl (.ofName "pypi" "p")).withProperties scatteredFlags =
      (ofPurl (.ofName "pypi" "p")).withProperties gatheredFlags ∧
    ((ofPurl (.ofName "pypi" "p")).withProperties scatteredFlags).properties = gatheredFlags := by
  have hmem : ∀ q, q ∈ scatteredFlags ↔ q ∈ gatheredFlags := fun q => by
    simp only [scatteredFlags, gatheredFlags, List.mem_cons, List.not_mem_nil, or_false]
    tauto
  exact ⟨hmem, (withProperties_sorted _ _).2.2.1 _ hmem, by decide⟩

end Component
end FetchPlan
