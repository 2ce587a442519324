import FetchPlan.Proofs.LinkDestinations

/-!
Trees that grow. Making directories and writing files leaves directories and links where they are,
and adds no link (`Grows`), so a path leads where it led before (`walk_grown`). A directory is
made only where nothing stands (`made_of_makeDirectories`), and writing a file changes one place,
where the path then leads (`wrote_of_writeFile`).

The relations are between a tree and a later one, so they compose: what holds after one step of
writing is carried over any number of further steps.
-/
namespace FetchPlan.Files

def Reached.place : Reached → Place
  | .found p _ => p
  | .missing d name => d ++ [name]

namespace Tree

/-- What the file at a place holds, where a file stands there. -/
def content? (t : Tree) (p : Place) : Option (List UInt8) :=
  match t.lookup p with
  | some (.file content) => some content
  | _ => none

/-- Whether directories and files stay what they are, however the files are written, and no link is
added. -/
structure Grows (t u : Tree) : Prop where
  working : u.workingDirectory = t.workingDirectory
  directory : ∀ p, t.lookup p = some .directory → u.lookup p = some .directory
  file : ∀ p content, t.lookup p = some (.file content) →
    ∃ content', u.lookup p = some (.file content')
  link : ∀ p target, u.lookup p = some (.link target) ↔ t.lookup p = some (.link target)

/-- Whether directories were made where nothing stood, and nothing else was done. -/
structure Made (t u : Tree) : Prop where
  working : u.workingDirectory = t.workingDirectory
  entries : ∀ p, u.lookup p = t.lookup p ∨ t.lookup p = none ∧ u.lookup p = some .directory

/-- Whether a file was written: one place holds what was written, and the path leads there. -/
structure Wrote (t u : Tree) (path : String) (content : List UInt8) (p : Place) : Prop where
  grows : Grows t u
  reached : u.reach true path = .ok (.found p (.file content))
  content : ∀ q, u.content? q = if q = p then some content else t.content? q

/-- Whether a path leads to a place. -/
def PointsTo (t : Tree) (path : String) (p : Place) :
    Prop := Leads t (start t.workingDirectory path) (parts path) p

variable {t u v : Tree}

namespace Grows

theorem refl (t : Tree) : Grows t t :=
  ⟨rfl, fun _ h => h, fun _ content h => ⟨content, h⟩, fun _ _ => Iff.rfl⟩

theorem trans (h₁ : Grows t u) (h₂ : Grows u v) : Grows t v := by
  constructor
  · rw [h₂.working, h₁.working]
  · intro p hp
    exact h₂.directory p (h₁.directory p hp)
  · intro p content hp
    obtain ⟨content', hp'⟩ := h₁.file p content hp
    exact h₂.file p content' hp'
  · intro p target
    rw [h₂.link, h₁.link]

theorem passable (h : Grows t u) {p : Place} (hp : u.Passable p) : t.Passable p := by
  intro content hf
  obtain ⟨content', hf'⟩ := h.file p content hf
  exact hp content' hf'

/-- Where parts lead in a tree that has grown, they led before. -/
theorem leads (h : Grows t u) {p q : Place} {ps : List String} (hl : Leads u p ps q) :
    Leads t p ps q := by
  induction hl with
  | here p => exact .here p
  | still hp hs _ ih => exact .still (h.passable hp) hs ih
  | up hp _ ih => exact .up (h.passable hp) ih
  | down hp hs hu hn _ ih =>
    exact .down (h.passable hp) hs hu (fun target hl => hn target ((h.link _ target).2 hl)) ih
  | through hp hs hu hl _ ih => exact .through (h.passable hp) hs hu ((h.link _ _).1 hl) ih

theorem pointsTo (h : Grows t u) {path : String} {p : Place} (hp : u.PointsTo path p) :
    t.PointsTo path p := by
  have hstart := h.leads hp
  rw [h.working] at hstart
  exact hstart

end Grows

namespace Made

theorem refl (t : Tree) : Made t t := ⟨rfl, fun _ => .inl rfl⟩

theorem trans (h₁ : Made t u) (h₂ : Made u v) : Made t v := by
  refine ⟨h₂.working.trans h₁.working, fun p => ?_⟩
  rcases h₁.entries p with hu | ⟨hnone, hu⟩
  · rw [← hu]
    exact h₂.entries p
  · rcases h₂.entries p with hv | ⟨hnone', -⟩
    · exact .inr ⟨hnone, hv.trans hu⟩
    · rw [hu] at hnone'
      cases hnone'

theorem grows (h : Made t u) : Grows t u := by
  constructor
  · exact h.working
  · intro p hp
    rcases h.entries p with hu | ⟨-, hu⟩
    · exact hu.trans hp
    · exact hu
  · intro p content hp
    rcases h.entries p with hu | ⟨hnone, -⟩
    · exact ⟨content, hu.trans hp⟩
    · rw [hp] at hnone
      cases hnone
  · intro p target
    rcases h.entries p with hu | ⟨hnone, hu⟩
    · rw [hu]
    · rw [hu, hnone]
      simp

theorem content?_eq (h : Made t u) (p : Place) : u.content? p = t.content? p := by
  unfold content?
  rcases h.entries p with hu | ⟨hnone, hu⟩
  · rw [hu]
  · rw [hu, hnone]

end Made

/-! ## One entry -/

theorem lookup_replaced (p q : Place) (e : Entry) (nodes : List (Place × Entry)) :
    (nodes.map fun (r, f) => if r = p then (r, e) else (r, f)).lookup q =
      if q = p then (nodes.lookup p).map fun _ => e else nodes.lookup q := by
  induction nodes with
  | nil => simp
  | cons node nodes ih =>
    obtain ⟨r, f⟩ := node
    rw [List.map_cons]
    by_cases hq : q = r
    · subst hq
      by_cases hp : q = p
      · subst hp
        simp
      · simp [hp]
    · have hne : (q == r) = false := by simpa using hq
      have hskip : ∀ g : Entry, ((r, g) :: nodes).lookup q = nodes.lookup q := by
        intro g
        rw [List.lookup_cons, hne]
      by_cases hp : q = p
      · subst hp
        simpa [List.lookup_cons, hne, Ne.symm hq] using ih
      · rw [hskip, if_neg hp]
        rw [if_neg hp] at ih
        by_cases hr : r = p
        · subst hr
          simpa [List.lookup_cons, hne] using ih
        · simpa [List.lookup_cons, hne, hr] using ih

theorem lookup_put (t : Tree) {p : Place} (hp : p ≠ []) (e : Entry) (q : Place) :
    (t.put p e).lookup q = if q = p then some e else t.lookup q := by
  by_cases hq : q = []
  · subst hq
    rw [if_neg (Ne.symm hp), lookup_nil, lookup_nil]
  · rw [lookup, lookup, if_neg hq, if_neg hq]
    unfold put
    split
    · next hs =>
      obtain ⟨f, hf⟩ := Option.isSome_iff_exists.1 hs
      have hreplaced := lookup_replaced p q e t.nodes
      rw [hf] at hreplaced
      exact hreplaced
    · next hs =>
      rw [List.lookup_append]
      by_cases hqp : q = p
      · subst hqp
        have hnone : t.nodes.lookup q = none := Option.not_isSome_iff_eq_none.1 hs
        simp [hnone]
      · have hne : (q == p) = false := by simpa using hqp
        simp [List.lookup_cons, hne, hqp]

theorem made_put {p : Place} (hp : p ≠ []) (hnone : t.lookup p = none) :
    Made t (t.put p .directory) := by
  refine ⟨?_, fun q => ?_⟩
  · unfold put
    split <;> rfl
  · rw [lookup_put t hp]
    by_cases hq : q = p
    · subst hq
      exact .inr ⟨hnone, if_pos rfl⟩
    · exact .inl (if_neg hq)

theorem grows_put {p : Place} (hp : p ≠ []) (content : List UInt8)
    (hfile : t.lookup p = none ∨ ∃ old, t.lookup p = some (.file old)) :
    Grows t (t.put p (.file content)) := by
  have hlookup := lookup_put t hp (.file content)
  constructor
  · unfold put
    split <;> rfl
  · intro q hq
    rw [hlookup, if_neg]
    · exact hq
    · rintro rfl
      rcases hfile with hnone | ⟨old, hold⟩
      · rw [hq] at hnone
        cases hnone
      · rw [hq] at hold
        cases hold
  · intro q old hq
    rw [hlookup]
    by_cases hqp : q = p
    · exact ⟨content, if_pos hqp⟩
    · exact ⟨old, by rw [if_neg hqp, hq]⟩
  · intro q target
    rw [hlookup]
    by_cases hqp : q = p
    · subst hqp
      rw [if_pos rfl]
      rcases hfile with hnone | ⟨old, hold⟩
      · simp [hnone]
      · simp [hold]
    · rw [if_neg hqp]

theorem content?_put {p : Place} (hp : p ≠ []) (content : List UInt8) (q : Place) :
    (t.put p (.file content)).content? q = if q = p then some content else t.content? q := by
  unfold content?
  rw [lookup_put t hp]
  by_cases hq : q = p
  · rw [if_pos hq, if_pos hq]
  · rw [if_neg hq, if_neg hq]

/-! ## Walks in a tree that has grown -/

/-- Where a walk found something, or a name missing, it finds what stands there later. -/
theorem walk_grown (h : Grows t u) (k : Nat) (here : Place) (ps : List String) {r : Reached}
    (hw : t.walk true k here ps = .ok r) {e : Entry} (he : u.lookup r.place = some e)
    (hlink : ∀ target, e ≠ .link target) : u.walk true k here ps = .ok (.found r.place e) := by
  -- by the steps of the walk: each directory and each link on the way is still there
  fun_induction t.walk true k here ps with
  | case1 k here e' he' =>
    obtain rfl := Except.ok.inj hw
    have he : u.lookup here = some e := he
    rw [walk, he]
    rfl
  | case3 k here part rest hd hs ih =>
    rw [walk, h.directory here hd]
    simp only [hs, if_true]
    exact ih hw
  | case4 k here rest hd hs ih =>
    rw [walk, h.directory here hd]
    simp only [hs, if_true, Bool.false_eq_true, if_false]
    exact ih hw
  | case6 k here part hd hs hu hlen hn =>
    obtain rfl := Except.ok.inj hw
    have he : u.lookup (here ++ [part]) = some e := he
    rw [walk, h.directory here hd]
    simp only [hs, hu, hlen, if_false, he]
    cases e with
    | link target => exact absurd rfl (hlink target)
    | directory | file content =>
      simp only [walk, he]
      rfl
  | case8 k here part rest hd hs hu hlen target hl hend => exact absurd rfl hend.2
  | case10 here part rest hd hs hu hlen target hl hend k ih =>
    rw [walk, h.directory here hd]
    simp only [hs, hu, hlen, Bool.false_eq_true, if_false, (h.link _ target).2 hl,
      not_true, and_false]
    exact ih hw
  | case11 k here part rest hd hs hu hlen f hne hf ih =>
    rw [walk, h.directory here hd]
    simp only [hs, hu, hlen, if_false]
    cases f with
    | directory =>
      rw [h.directory _ hf]
      exact ih hw
    | file content =>
      obtain ⟨content', hf'⟩ := h.file _ content hf
      rw [hf']
      exact ih hw
    | link target => exact absurd rfl (hne target)
  | case2 | case5 | case7 | case9 | case12 | case13 => cases hw

theorem reach_eq_ok_iff {f : Bool} {path : String} {r : Reached} : t.reach f path = .ok r ↔
    (path.contains '\x00' = false ∧ path ≠ "" ∧ path.utf8ByteSize < pathLimit) ∧
      t.walk f linkLimit (start t.workingDirectory path) (parts path) = .ok r := by
  unfold reach
  by_cases hnul : path.contains '\x00' = true
  · simp [hnul]
  · by_cases hempty : path = ""
    · simp [hempty]
    · by_cases hlen : path.utf8ByteSize ≥ pathLimit
      · simp [hnul, hempty, hlen, Nat.not_lt.2 hlen]
      · simp [hnul, hempty, hlen, Nat.not_le.1 hlen]

theorem reach_grown (h : Grows t u) {path : String} {r : Reached} (hr : t.reach true path = .ok r)
    {e : Entry} (he : u.lookup r.place = some e) (hlink : ∀ target, e ≠ .link target) :
    u.reach true path = .ok (.found r.place e) := by
  rw [reach_eq_ok_iff] at hr ⊢
  rw [h.working]
  exact ⟨hr.1, walk_grown h linkLimit _ _ hr.2 he hlink⟩

theorem pointsTo_of_reach {path : String} {r : Reached} (hr : t.reach true path = .ok r) :
    t.PointsTo path r.place ∧
      (∀ d name, r = .missing d name → t.lookup (d ++ [name]) = none) ∧
      ∀ p e, r = .found p e → t.lookup p = some e := by
  have hwalk := (reach_eq_ok_iff.1 hr).2
  cases walk_arrives true linkLimit _ _ hwalk with
  | found hl he =>
    refine ⟨hl, ?_, ?_⟩
    · rintro d name ⟨⟩
    · rintro p e ⟨⟩
      exact he
  | missing hl hn =>
    refine ⟨hl, ?_, ?_⟩
    · rintro d name ⟨⟩
      exact hn
    · rintro p e ⟨⟩
  | link hf => cases hf

/-! ## Making directories -/

theorem made_of_makeDirectory {path : String} (h : t.makeDirectory path = .ok u) : Made t u := by
  unfold makeDirectory make at h
  simp only [bind, Except.bind] at h
  split at h
  · cases h
  · next r hr =>
    split at h
    · cases h
    · next d name =>
      obtain rfl := Except.ok.inj h
      refine made_put (by simp) ?_
      cases walk_arrives false linkLimit _ _ (reach_eq_ok_iff.1 hr).2 with
      | missing _ hn => exact hn

/-- Making a directory with those above it makes directories where nothing stood. -/
theorem made_of_makeFirst : ∀ {paths : List String} {t u : Tree},
    t.makeFirst paths = .ok u → Made t u
  | [], t, u, h => by cases h
  | path :: above, t, u, h => by
    unfold makeFirst at h
    split at h
    · obtain rfl := Except.ok.inj h
      exact .refl t
    · split at h
      · next hmade =>
        obtain rfl := Except.ok.inj h
        exact made_of_makeDirectory hmade
      · split at h
        · -- those above it come first, and it is made in what they leave
          simp only [bind, Except.bind] at h
          split at h
          · cases h
          · next v hv =>
            have habove : Made t v := made_of_makeFirst hv
            split at h
            · next hmade =>
              obtain rfl := Except.ok.inj h
              exact habove.trans (made_of_makeDirectory hmade)
            · split at h
              · obtain rfl := Except.ok.inj h
                exact habove
              · cases h
        · split at h
          · obtain rfl := Except.ok.inj h
            exact .refl t
          · cases h

theorem made_of_makeDirectories {path : String} (h : t.makeDirectories path = .ok u) :
    Made t u := made_of_makeFirst h

/-! ## Writing a file -/

theorem wrote_of_writeFile {path : String} {content : List UInt8}
    (h : t.writeFile path content = .ok u) : ∃ p, Wrote t u path content p := by
  unfold writeFile at h
  simp only [bind, Except.bind] at h
  split at h
  · cases h
  · next r hr =>
    obtain ⟨-, hmissing, hfound⟩ := pointsTo_of_reach hr
    -- a file stands at the place of the answer, or nothing does
    have hput : r.place ≠ [] ∧ u = t.put r.place (.file content) ∧
        (t.lookup r.place = none ∨ ∃ old, t.lookup r.place = some (.file old)) := by
      split at h
      · next p old =>
        have hp : t.lookup p = some (.file old) := hfound p _ rfl
        refine ⟨?_, (Except.ok.inj h).symm, .inr ⟨old, hp⟩⟩
        rintro hnil
        have hnil : p = [] := hnil
        rw [hnil, lookup_nil] at hp
        cases hp
      · cases h
      · next d name =>
        exact ⟨by simp [Reached.place], (Except.ok.inj h).symm, .inl (hmissing d name rfl)⟩
    obtain ⟨hne, rfl, hfile⟩ := hput
    have hgrows := grows_put hne content hfile
    have hwritten : (t.put r.place (.file content)).lookup r.place = some (.file content) := by
      rw [lookup_put t hne, if_pos rfl]
    exact ⟨r.place, hgrows, reach_grown hgrows hr hwritten (by simp), content?_put hne content⟩

/-- A file that is written after directories were made, is written from the tree before. -/
theorem Wrote.of_made {path : String} {content : List UInt8} {p : Place} (hmade : Made t u)
    (h : Wrote u v path content p) : Wrote t v path content p := by
  refine ⟨hmade.grows.trans h.grows, h.reached, fun q => ?_⟩
  rw [h.content, hmade.content?_eq]

theorem lookup_of_content? {p : Place} {content : List UInt8} (h : t.content? p = some content) :
    t.lookup p = some (.file content) := by
  unfold content? at h
  split at h
  · next hp =>
    rw [hp, Option.some.inj h]
  · cases h

/-- What a path was written to is found at it later, with what it then holds. -/
theorem Wrote.reach_grown {path : String} {content content' : List UInt8} {p : Place}
    (h : Wrote t u path content p) (hgrows : Grows u v) (hcontent : v.content? p = some content') :
    v.reach true path = .ok (.found p (.file content')) :=
  Tree.reach_grown hgrows h.reached (lookup_of_content? hcontent) (by simp)

theorem Wrote.pointsTo {path : String} {content : List UInt8} {p : Place}
    (h : Wrote t u path content p) :
    t.PointsTo path p := h.grows.pointsTo (pointsTo_of_reach h.reached).1

/-! ## One place for each path -/

theorem Leads.unique {p q q' : Place} {ps : List String} (h : Leads t p ps q)
    (h' : Leads t p ps q') : q = q' := by
  induction h with
  | here p =>
    cases h'
    rfl
  | still _ hs _ ih => exact ih (leads_of_still hs h')
  | up _ _ ih =>
    cases h' with
    | still _ hs _ => exact absurd hs (by decide)
    | up _ h' => exact ih h'
    | down _ _ hn => exact absurd rfl hn
    | through _ _ hn => exact absurd rfl hn
  | down _ hs hu hl _ ih =>
    cases h' with
    | still _ hs' _ => rw [hs] at hs'; cases hs'
    | up => exact absurd rfl hu
    | down _ _ _ _ h' => exact ih h'
    | through _ _ _ hl' => exact absurd hl' (hl _)
  | through _ hs hu hl _ ih =>
    cases h' with
    | still _ hs' _ => rw [hs] at hs'; cases hs'
    | up => exact absurd rfl hu
    | down _ _ _ hl' => exact absurd hl (hl' _)
    | through _ _ _ hl' h' =>
      rw [hl] at hl'
      cases hl'
      exact ih h'

/-- A name leads to what stands under it, unless that is a link. -/
theorem Leads.eq_of_name {p q : Place} {name : String} (h : Leads t p [name] q)
    (hname : IsName name) (hl : ∀ target, t.lookup (p ++ [name]) ≠ some (.link target)) :
    q = p ++ [name] := by
  cases h with
  | still _ hs _ => rw [hname.step] at hs; cases hs
  | up => exact absurd rfl hname.noParent
  | down _ _ _ _ h =>
    cases h
    rfl
  | through _ _ _ hlink => exact absurd hlink (hl _)

/-- Parts that stand for no step may be left out. -/
theorem leads_filter {q : Place} : ∀ {ps : List String} {p : Place}, Leads t p ps q →
    Leads t p (ps.filter (!isStill ·)) q
  | [], _, h => h
  | part :: ps, p, h => by
    rw [List.filter_cons]
    split
    · rw [← List.singleton_append] at h ⊢
      obtain ⟨m, hm, hrest⟩ := leads_append.1 h
      exact leads_append.2 ⟨m, hm, leads_filter hrest⟩
    · next hs => exact leads_filter (leads_of_still (by simpa using hs) h)

end Tree
end FetchPlan.Files
