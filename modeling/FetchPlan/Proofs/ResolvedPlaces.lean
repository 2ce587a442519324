import FetchPlan.Proofs.PlainPlaces

/-!
What a path is resolved to, in any tree. Each step from a place of names leads to one of names,
through whatever links (`resolve_named`), and through no link to the place that is written, if it
leads anywhere (`foldlM_linkFree`). What is joined to a root is the place that the path leads to
from there, which stands at the root or below it (`goesTo_of_join`).
-/
namespace FetchPlan.RootedPath

open Files Files.Tree

variable {t : Tree}

/-! ## Names of resolved places -/

theorem follow_named {p q : Place} (hp : ∀ name ∈ p, IsName name) (h : follow t p = .ok q) :
    ∀ name ∈ q, IsName name := by
  rcases follow_cases h with hc | ⟨-, ⟨d, target, -, rfl⟩ | ⟨-, rfl⟩⟩
  · exact named_of_leads (canonical_leads hc).1 (by simp) fun name hn => (hp name hn).noSlash
  · exact named_placePlainly (fun name hn => hp name (List.dropLast_subset _ hn)) target
  · exact hp

theorem step_named {p q : Place} {part : String} (hp : ∀ name ∈ p, IsName name)
    (hs : '/' ∉ part.toList) (h : step t p part = .ok q) : ∀ name ∈ q, IsName name := by
  unfold step at h
  split at h
  · obtain rfl := Except.ok.inj h
    exact hp
  · next hstill =>
    split at h
    · obtain rfl := Except.ok.inj h
      exact fun name hn => hp name (List.dropLast_subset _ hn)
    · next hup =>
      exact follow_named (named_concat hp ⟨by simpa using hstill, hup, hs⟩) h

theorem resolve_named {path : String} {p : Place} (habsolute : isAbsolute path = true)
    (h : resolve t path = .ok p) : ∀ name ∈ p, IsName name := by
  rw [resolve, if_pos habsolute] at h
  exact foldlM_keeps step_named (by simp) (fun part => noSlash_of_mem_parts) h

/-! ## Places that no link leads away from -/

theorem follow_linkFree {p q : Place} (hf : t.LinkFree p) (hn : ∀ name ∈ p, IsName name)
    (h : follow t p = .ok q) : q = p := by
  have hstands : ∀ m, Leads t [] p m → m = p := fun m hm => eq_of_linkFree hm (by simpa using hf) hn
  rcases follow_cases h with hc | ⟨-, ⟨d, target, hw, rfl⟩ | ⟨-, rfl⟩⟩
  · exact hstands q (canonical_leads hc).1
  · -- a link is found at the end of the way only, and none stands there
    cases walk_arrives _ _ _ _ hw with
    | found hl he =>
      rw [hstands d hl] at he
      exact absurd he (hf p (List.prefix_refl _) target)
    | @link d init name _ _ hp hl he =>
      have hinit : init <+: p := ⟨[name], hp.symm⟩
      obtain rfl : d = init := by
        have hd :=
          eq_of_linkFree hl (by simpa using hf.of_isPrefix hinit) fun m hm => hn m (hinit.subset hm)
        simpa using hd
      exact absurd he (hf _ ⟨[], by simp [hp]⟩ target)
  · rfl

theorem foldlM_linkFree : ∀ (rest : List String) {here q : Place}, t.LinkFree (here ++ rest) →
    (∀ name ∈ here ++ rest, IsName name) → rest.foldlM (step t) here = .ok q → q = here ++ rest
  | [], here, q, _, _, h => by
    obtain rfl := Except.ok.inj h
    simp
  | name :: rest, here, q, hf, hn, h => by
    have hbelow : here ++ [name] <+: here ++ name :: rest := ⟨rest, by simp⟩
    have hname : IsName name := hn name (by simp)
    rw [List.foldlM_cons, step_name hname] at h
    cases hm : follow t (here ++ [name]) with
    | error e => rw [hm] at h; cases h
    | ok m =>
      obtain rfl := follow_linkFree (hf.of_isPrefix hbelow) (fun m hm => hn m (hbelow.subset hm)) hm
      rw [hm] at h
      have ih := foldlM_linkFree rest (by simpa using hf) (by simpa using hn) h
      simpa using ih

/-! ## What is joined to a root -/

/-- Whether a path leads from a root to a place, at the root or below it. -/
structure GoesTo (t : Tree) (r : RootedPath) (rel : String) (p : Place) : Prop where
  resolved : resolve t (joinText r.text rel) = .ok p
  below : r.path <+: p

/-- Whether a path leads from a root to a place that is not at the root nor below it. -/
def Strays (t : Tree) (r : RootedPath) (rel : String) : Prop :=
  ∃ p, resolve t (joinText r.text rel) = .ok p ∧ ¬ r.path <+: p

variable {r s : RootedPath} {rel : String}

theorem reRoot_root (h : r.reRoot t rel = .ok s) : s.root = s.path := by
  obtain ⟨m, -, rfl⟩ := reRoot_eq h
  rfl

/-- A path that is made a root lies below the root that it is read from. -/
theorem reRoot_isPrefix (h : r.reRoot t rel = .ok s) : r.root <+: s.path := by
  obtain ⟨m, hm, rfl⟩ := reRoot_eq h
  obtain ⟨-, hroot, hbelow⟩ := join_eq hm
  rw [hroot] at hbelow
  exact hbelow

theorem reRoot_named (h : r.reRoot t rel = .ok s) : ∀ name ∈ s.path, IsName name := by
  obtain ⟨m, hm, rfl⟩ := reRoot_eq h
  exact resolve_named (isAbsolute_joinText (isAbsolute_text _) rel) (join_eq hm).1

theorem goesTo_of_join (hroot : r.root = r.path) (h : r.join t rel = .ok s) :
    GoesTo t r rel s.path := by
  obtain ⟨hresolved, hroots, hbelow⟩ := join_eq h
  refine ⟨hresolved, ?_⟩
  rw [← hroot, ← hroots]
  exact hbelow

theorem GoesTo.named {p : Place} (h : GoesTo t r rel p) : ∀ name ∈ p, IsName name :=
  resolve_named (isAbsolute_joinText (isAbsolute_text r.path) rel) h.resolved

/-- A name leads to itself where no link stands there or on the way. -/
theorem GoesTo.eq_of_linkFree {p : Place} (h : GoesTo t r rel p) (hr : ∀ name ∈ r.path, IsName name)
    (hrel : IsName rel) (hf : t.LinkFree (r.path ++ [rel])) : p = r.path ++ [rel] := by
  have hcomponents : components (joinText r.text rel) = r.path ++ [rel] := by
    rw [components_joinText (isAbsolute_of_noSlash hrel.noSlash), components_name hrel,
      RootedPath.text, components_text_names hr]
  have habsolute : isAbsolute (joinText r.text rel) = true :=
    isAbsolute_joinText (isAbsolute_text r.path) rel
  have hresolved : (r.path ++ [rel]).foldlM (step t) [] = .ok p := by
    rw [← hcomponents, ← resolve_components habsolute]
    exact h.resolved
  have hfrom : t.LinkFree ([] ++ (r.path ++ [rel])) := hf
  exact foldlM_linkFree (r.path ++ [rel]) hfrom (named_concat hr hrel) hresolved

theorem GoesTo.not_strays {p : Place} (h : GoesTo t r rel p) : ¬ Strays t r rel := by
  rintro ⟨q, hq, hout⟩
  obtain rfl := Except.ok.inj (h.resolved.symm.trans hq)
  exact hout h.below

end FetchPlan.RootedPath
