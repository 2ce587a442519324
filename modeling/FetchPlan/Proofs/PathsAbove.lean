import FetchPlan.Proofs.PathText
import Mathlib.Data.List.Nodup

/-!
The paths above a path. A path is above another one when it is the root, or the text of the other
one up to the end of a step after which another step comes (`IsAbove`). The ancestors of an
absolute path are the path itself and those above it (`mem_ancestors`), each with fewer steps than
the one before it (`pairwise_ancestors`), so two of them with as many steps are the same
(`AtOrAbove.eq_of_depth`).
-/
namespace FetchPlan.Files

/-- The number of steps of a path. -/
def depth (path : String) : Nat := (components path).length

/-- Whether the text of a location is cut at the end of a step, with another step after it. -/
structure CutAtStep (location path rest : String) : Prop where
  text : location = path ++ "/" ++ rest
  step : ∃ part, (parts path).getLast? = some part ∧ isStill part = false
  more : components rest ≠ []

/-- Whether a path is that of a directory above a location. -/
inductive IsAbove (location : String) : String → Prop
  | root : components location ≠ [] → IsAbove location "/"
  | cut {path rest : String} : CutAtStep location path rest → IsAbove location path

/-- Whether a path is that of a location or of a directory above it. -/
def AtOrAbove (location path : String) : Prop := path = location ∨ IsAbove location path

theorem parts_of_isAbsolute {path : String} (h : isAbsolute path = true) :
    ∃ ps, parts path = "" :: ps := by
  obtain ⟨r, hr⟩ : ∃ r, path.toList = '/' :: r := by
    cases hpath : path.toList with
    | nil => simp [isAbsolute, hpath] at h
    | cons c r =>
      obtain rfl : c = '/' := by simpa [isAbsolute, hpath] using h
      exact ⟨r, rfl⟩
  exact ⟨(Text.fields (· == '/') r).map String.ofList, by simp [parts, hr, Text.fields]⟩

/-! ## Steps of a path -/

section Steps

variable {before : List String} {part : String} {ps : List String}

theorem stepsOf_cons_still (hbefore : before ≠ []) (h : isStill part = true) :
    stepsOf before (part :: ps) = stepsOf (before ++ [part]) ps := by
  have hstill : part = "" ∨ part = "." := by simpa [isStill] using h
  have hskip : part = "" ∨ part = "." ∧ before ≠ [] := hstill.imp_right fun hp => ⟨hp, hbefore⟩
  rw [stepsOf, if_pos hskip]

theorem stepsOf_cons_step (h : isStill part = false) :
    stepsOf before (part :: ps) = "/".intercalate (before ++ [part]) ::
      stepsOf (before ++ [part]) ps := by
  have hstep : part ≠ "" ∧ part ≠ "." := by simpa [isStill] using h
  have hkeep : ¬ (part = "" ∨ part = "." ∧ before ≠ []) := by
    rintro (hp | ⟨hp, -⟩)
    · exact hstep.1 hp
    · exact hstep.2 hp
  rw [stepsOf, if_neg hkeep]

theorem stepsOf_eq_nil : ∀ {ps : List String} {before : List String}, before ≠ [] →
    (stepsOf before ps = [] ↔ ps.filter (!isStill ·) = [])
  | [], _, _ => by simp [stepsOf]
  | part :: ps, before, hbefore => by
    by_cases hpart : isStill part = true
    · rw [stepsOf_cons_still hbefore hpart, stepsOf_eq_nil (by simp),
        List.filter_cons_of_neg (by simp [hpart])]
    · have hpart : isStill part = false := by simpa using hpart
      rw [stepsOf_cons_step hpart, List.filter_cons_of_pos (by simp [hpart])]
      simp

theorem exists_split_cons {P : List String → String → List String → Prop} :
    (∃ xs q ys, part :: ps = xs ++ q :: ys ∧ P xs q ys) ↔
      P [] part ps ∨ ∃ xs q ys, ps = xs ++ q :: ys ∧ P (part :: xs) q ys := by
  constructor
  · rintro ⟨xs, q, ys, hps, h⟩
    cases xs with
    | nil =>
      obtain ⟨rfl, rfl⟩ := List.cons.inj hps
      exact .inl h
    | cons x xs =>
      obtain ⟨rfl, hrest⟩ := List.cons.inj hps
      exact .inr ⟨xs, q, ys, hrest, h⟩
  · rintro (h | ⟨xs, q, ys, rfl, h⟩)
    · exact ⟨[], part, ps, rfl, h⟩
    · exact ⟨part :: xs, q, ys, rfl, h⟩

/-- The steps before the last one: after each of them another step comes. -/
theorem mem_dropLast_stepsOf {path : String} :
    ∀ {ps : List String} {before : List String}, before ≠ [] →
    (path ∈ (stepsOf before ps).dropLast ↔
      ∃ xs part ys, ps = xs ++ part :: ys ∧ isStill part = false ∧
      ys.filter (!isStill ·) ≠ [] ∧ path = "/".intercalate (before ++ xs ++ [part]))
  | [], _, _ => by simp [stepsOf]
  | part :: ps, before, hbefore => by
    have hne : before ++ [part] ≠ [] := by simp
    have ih : path ∈ (stepsOf (before ++ [part]) ps).dropLast ↔ _ := mem_dropLast_stepsOf hne
    rw [exists_split_cons]
    by_cases hpart : isStill part = true
    · rw [stepsOf_cons_still hbefore hpart, ih]
      simp [hpart]
    · have hpart : isStill part = false := by simpa using hpart
      rw [stepsOf_cons_step hpart]
      by_cases hnil : stepsOf (before ++ [part]) ps = []
      · have hps := (stepsOf_eq_nil hne).1 hnil
        simp only [hnil, List.dropLast_nil, List.not_mem_nil, false_iff] at ih
        rw [hnil]
        simpa [hps] using ih
      · have hps := mt (stepsOf_eq_nil hne).2 hnil
        rw [List.dropLast_cons_of_ne_nil hnil, List.mem_cons, ih]
        simp [hpart, hps]

theorem ascends_stepsOf : ∀ {ps : List String} {before : List String}, before ≠ [] →
    (∀ name ∈ before, '/' ∉ name.toList) → (∀ name ∈ ps, '/' ∉ name.toList) →
    (stepsOf before ps).Pairwise (depth · < depth ·) ∧
      ∀ path ∈ stepsOf before ps, (before.filter (!isStill ·)).length < depth path
  | [], _, _, _, _ => by simp [stepsOf]
  | part :: ps, before, hbefore, hslash, hslashes => by
    have hhere : ∀ name ∈ before ++ [part], '/' ∉ name.toList := by
      intro name hn
      rcases List.mem_append.1 hn with hn | hn
      · exact hslash name hn
      · exact hslashes name (by simp_all)
    obtain ⟨hpairs, hbelow⟩ :=
      ascends_stepsOf (by simp) hhere fun name hn => hslashes name (List.mem_cons_of_mem part hn)
    rw [List.filter_append, List.length_append] at hbelow
    by_cases hpart : isStill part = true
    · rw [stepsOf_cons_still hbefore hpart]
      exact ⟨hpairs, fun path hp => by have := hbelow path hp; omega⟩
    · have hpart : isStill part = false := by simpa using hpart
      have hdepth :
          depth ("/".intercalate (before ++ [part])) = (before.filter (!isStill ·)).length + 1 := by
        rw [depth, components_intercalate hhere, List.filter_append, List.length_append]
        simp [hpart]
      have hone : ([part].filter (!isStill ·)).length = 1 := by simp [hpart]
      rw [hone] at hbelow
      rw [stepsOf_cons_step hpart]
      refine ⟨.cons (fun path hp => hdepth ▸ hbelow path hp) hpairs, fun path hp => ?_⟩
      rcases List.mem_cons.1 hp with rfl | hp
      · omega
      · have := hbelow path hp
        omega

end Steps

/-! ## Ancestors -/

variable {location : String}

theorem ancestors_of_parts {ps : List String} (h : isAbsolute location = true)
    (hps : parts location = "" :: ps) :
    ancestors location = location :: ("/" :: stepsOf [""] ps).dropLast.reverse := by
  simp [ancestors, h, hps]

theorem components_of_parts {ps : List String} (hps : parts location = "" :: ps) :
    components location = ps.filter (!isStill ·) := by
  rw [components, hps]
  rfl

theorem cutAtStep_of_parts {xs ys : List String} {part : String}
    (hps : parts location = "" :: (xs ++ part :: ys)) (hpart : isStill part = false)
    (hys : ys.filter (!isStill ·) ≠ []) :
    CutAtStep location ("/".intercalate ("" :: xs ++ [part])) ("/".intercalate ys) := by
  have hslash : ∀ name ∈ "" :: (xs ++ part :: ys), '/' ∉ name.toList :=
    fun name hn => noSlash_of_mem_parts (hps ▸ hn)
  have hne : ys ≠ [] := by
    rintro rfl
    exact hys rfl
  have hfront : parts ("/".intercalate ("" :: xs ++ [part])) = "" :: xs ++ [part] := by
    refine parts_intercalate (by simp) fun name hn => hslash name ?_
    simp only [List.cons_append, List.mem_cons, List.mem_append, List.not_mem_nil, or_false] at hn ⊢
    tauto
  have hrest : parts ("/".intercalate ys) = ys :=
    parts_intercalate hne fun name hn => hslash name (by simp [hn])
  refine ⟨parts_inj ?_, ⟨part, ?_, hpart⟩, ?_⟩
  · rw [parts_append_slash, hfront, hrest, hps]
    simp
  · rw [hfront]
    exact List.getLast?_concat
  · rwa [components, hrest]

theorem CutAtStep.parts_eq {path rest : String} (h : CutAtStep location path rest)
    (habsolute : isAbsolute location = true) :
    ∃ xs part, parts location = "" :: (xs ++ part :: parts rest) ∧
      isStill part = false ∧ path = "/".intercalate ("" :: xs ++ [part]) := by
  obtain ⟨ps, hps⟩ := parts_of_isAbsolute habsolute
  obtain ⟨part, hlast, hpart⟩ := h.step
  obtain ⟨front, hfront⟩ := List.getLast?_eq_some_iff.1 hlast
  have hparts : front ++ [part] ++ parts rest = "" :: ps := by
    rw [← hfront, ← parts_append_slash, ← h.text, hps]
  cases front with
  | nil =>
    obtain rfl : part = "" := (List.cons.inj hparts).1
    cases hpart
  | cons x xs =>
    obtain rfl : x = "" := (List.cons.inj hparts).1
    have hslash : ∀ name ∈ "" :: xs ++ [part], '/' ∉ name.toList :=
      fun name hn => noSlash_of_mem_parts (hfront ▸ hn)
    refine ⟨xs, part, ?_, hpart, parts_inj ?_⟩
    · rw [h.text, parts_append_slash, hfront]
      simp
    · rw [hfront, parts_intercalate (by simp) hslash]

/-- The steps of a location before its last one lead to what is above it. -/
theorem mem_dropLast_steps {path : String} {ps : List String} (h : isAbsolute location = true)
    (hps : parts location = "" :: ps) :
    path ∈ ("/" :: stepsOf [""] ps).dropLast ↔ IsAbove location path := by
  have hcomponents : components location = ps.filter (!isStill ·) := components_of_parts hps
  have hroot : stepsOf [""] ps = [] ↔ components location = [] := by
    rw [hcomponents, stepsOf_eq_nil (by simp)]
  constructor
  · intro hmem
    have hne : stepsOf [""] ps ≠ [] := by
      intro hnil
      simp [hnil] at hmem
    rw [List.dropLast_cons_of_ne_nil hne, List.mem_cons, mem_dropLast_stepsOf (by simp)] at hmem
    rcases hmem with rfl | ⟨xs, part, ys, rfl, hpart, hys, rfl⟩
    · exact .root (mt hroot.2 hne)
    · exact .cut (cutAtStep_of_parts hps hpart hys)
  · intro habove
    cases habove with
    | root hne =>
      rw [List.dropLast_cons_of_ne_nil (mt hroot.1 hne)]
      exact List.mem_cons_self
    | @cut path rest hcut =>
      obtain ⟨xs, part, hparts, hpart, rfl⟩ := hcut.parts_eq h
      obtain rfl : ps = xs ++ part :: parts rest := (List.cons.inj (hps.symm.trans hparts)).2
      have hmem : "/".intercalate ("" :: xs ++ [part]) ∈
          (stepsOf [""] (xs ++ part :: parts rest)).dropLast :=
        (mem_dropLast_stepsOf (by simp)).2 ⟨xs, part, parts rest, rfl, hpart, hcut.more, rfl⟩
      have hne : stepsOf [""] (xs ++ part :: parts rest) ≠ [] := by
        intro hnil
        simp [hnil] at hmem
      rw [List.dropLast_cons_of_ne_nil hne]
      exact List.mem_cons_of_mem _ hmem

theorem mem_ancestors (h : isAbsolute location = true) {path : String} :
    path ∈ ancestors location ↔ AtOrAbove location path := by
  obtain ⟨ps, hps⟩ := parts_of_isAbsolute h
  rw [ancestors_of_parts h hps, List.mem_cons, List.mem_reverse, mem_dropLast_steps h hps]
  rfl

theorem IsAbove.depth_lt {path : String} (h : IsAbove location path) :
    depth path < depth location := by
  cases h with
  | root hne => exact List.length_pos_of_ne_nil hne
  | cut hcut =>
    have hpos := List.length_pos_of_ne_nil hcut.more
    rw [depth, depth, hcut.text, components_append_slash, List.length_append]
    omega

/-- Of the ancestors of a path each has fewer steps than the one before it. -/
theorem pairwise_ancestors (h : isAbsolute location = true) :
    (ancestors location).Pairwise fun path above => depth above < depth path := by
  obtain ⟨ps, hps⟩ := parts_of_isAbsolute h
  have hslash : ∀ name ∈ parts location, '/' ∉ name.toList := fun name hn => noSlash_of_mem_parts hn
  rw [hps] at hslash
  have hsteps : ("/" :: stepsOf [""] ps).Pairwise (depth · < depth ·) := by
    obtain ⟨hpairs, hbelow⟩ := @ascends_stepsOf ps [""] (by simp) (by simp)
      fun name hn => hslash name (List.mem_cons_of_mem "" hn)
    exact .cons hbelow hpairs
  rw [ancestors_of_parts h hps]
  refine .cons (fun path hp => ?_)
    (List.pairwise_reverse.2 (hsteps.sublist (List.dropLast_sublist _)))
  exact ((mem_dropLast_steps h hps).1 (List.mem_reverse.1 hp)).depth_lt

theorem AtOrAbove.eq_of_depth (h : isAbsolute location = true) {path path' : String}
    (hp : AtOrAbove location path) (hp' : AtOrAbove location path')
    (hdepth : depth path = depth path') : path = path' := by
  have hnodup : ((ancestors location).map depth).Nodup :=
    List.pairwise_map.2 ((pairwise_ancestors h).imp fun hlt => Nat.ne_of_gt hlt)
  exact List.inj_on_of_nodup_map hnodup ((mem_ancestors h).2 hp) ((mem_ancestors h).2 hp') hdepth

end FetchPlan.Files
