import FetchPlan.Proofs.LinkDestinations
import FetchPlan.RootedPath

/-!
How far rooted paths are confined to their root. A path is resolved by making each existing part
canonical, but a link that leads nowhere is replaced by its target as it is written (`follow`),
and what is written may itself pass through a link. The invariant of the resolution is that a
place stands for itself: neither it nor any place on the way to it leads elsewhere (`Stands`).
Everything but the reading of such a link keeps it (`follow_steady`). So every rooted path of a
tree is confined when each link that leads nowhere is written as a place that stands for itself
(`Reachable.confined`), and only then (`linksReadPlainly_of_confined`).

Assumed of the tree is only that it is well formed (`Sound`). `Reachable` begins with any declared
root and goes on with any join, so nothing is assumed of the paths.
-/
namespace FetchPlan

open Files Files.Tree

namespace Files.Tree

variable {t : Tree}

/-- Whether neither a place nor any place on the way to it leads elsewhere. -/
def Stands (t : Tree) (p : Place) : Prop := ∀ q, q <+: p → ∀ m, Leads t [] q m → m = q

/-- Whether every link that leads nowhere is written as a place that stands for itself. -/
def LinksReadPlainly (t : Tree) : Prop := ∀ p target, t.lookup p = some (.link target) →
  t.canonical p = .error .notFound → t.Stands (placePlainly p.dropLast target)

theorem Stands.of_isPrefix {p q : Place} (h : t.Stands p) (hq : q <+: p) : t.Stands q :=
  fun r hr => h r (hr.trans hq)

theorem LinkFree.stands {p : Place} (h : t.LinkFree p) (hn : ∀ name ∈ p, IsName name) :
    t.Stands p := by
  intro q hq m hm
  have hf : t.LinkFree ([] ++ q) := h.of_isPrefix hq
  exact eq_of_linkFree hm hf fun name hname => hn name (hq.subset hname)

theorem Stands.concat {p : Place} {name : String} (h : t.Stands p)
    (hlast : ∀ m, Leads t [] (p ++ [name]) m → m = p ++ [name]) : t.Stands (p ++ [name]) := by
  intro q hq
  rcases List.prefix_concat_iff.1 hq with rfl | hq
  · exact hlast
  · exact h q hq

/-- The canonical place of a path is where it leads, and something stands there. -/
theorem canonical_leads {p q : Place} (h : t.canonical p = .ok q) :
    Leads t [] p q ∧ ∃ e, t.lookup q = some e := by
  unfold canonical at h
  split at h
  · cases h
  · split at h
    · next r e hw =>
      obtain rfl := Except.ok.inj h
      obtain ⟨hl, he⟩ := leads_of_walk hw
      exact ⟨hl, e, he⟩
    · cases h
    · cases h

theorem walk_of_canonical_notFound {p : Place} (h : t.canonical p = .error .notFound) :
    p.any (·.contains '\x00') = false ∧ t.walk true linkLimit [] p ≠ .error .nameTooLong := by
  unfold canonical at h
  split at h
  · cases h
  · next hnul =>
    refine ⟨by simpa using hnul, fun hw => ?_⟩
    rw [hw] at h
    cases h

end Files.Tree

namespace RootedPath

variable {t : Tree}

/-- Whether a path stays at its root or below it: the place of what exists there, and the place
where its links lead in the end, whether anything exists there or not. -/
structure Confined (t : Tree) (r : RootedPath) : Prop where
  canonical : ∀ q, t.canonical r.path = .ok q → r.root <+: q
  leads : ∀ q, Leads t [] r.path q → r.root <+: q

/-- The rooted paths that there are: roots, and what is joined to them or made a root. -/
inductive Reachable (t : Tree) : RootedPath → Prop
  | new {path : String} {r : RootedPath} : RootedPath.new t path = .ok r → Reachable t r
  | join {r s : RootedPath} {rel : String} : Reachable t r → r.join t rel = .ok s → Reachable t s
  | reRoot {r s : RootedPath} {rel : String} : Reachable t r →
    r.reRoot t rel = .ok s → Reachable t s

/-- What the resolution of a path keeps. -/
structure Steady (t : Tree) (p : Place) : Prop where
  named : ∀ name ∈ p, IsName name
  stands : t.Stands p

/-! ## Steps of the resolution -/

theorem steady_nil : Steady t [] := ⟨by simp, linkFree_nil.stands (by simp)⟩

theorem Steady.dropLast {p : Place} (h : Steady t p) : Steady t p.dropLast :=
  ⟨fun name hn => h.named name (List.dropLast_subset _ hn),
    h.stands.of_isPrefix (List.dropLast_prefix _)⟩

theorem named_placePlainly {base : Place} (h : ∀ name ∈ base, IsName name) (path : String) :
    ∀ name ∈ placePlainly base path, IsName name := by
  have hparts : ∀ part ∈ parts path, '/' ∉ part.toList := fun part => noSlash_of_mem_parts
  have hstart : ∀ name ∈ (if isAbsolute path then [] else base), IsName name := by
    split
    · simp
    · exact h
  unfold placePlainly
  generalize (if isAbsolute path then [] else base) = p at hstart
  generalize parts path = ps at hparts
  induction ps generalizing p with
  | nil => exact hstart
  | cons part ps ih =>
    refine ih _ ?_ fun m hm => hparts m (List.mem_cons_of_mem _ hm)
    unfold stepPlainly
    split
    · exact hstart
    · split
      · exact fun m hm => hstart m (List.dropLast_subset _ hm)
      · next hs hu =>
        exact named_concat hstart ⟨by simpa using hs, hu, hparts part List.mem_cons_self⟩

/-- Nothing but a link leads from a place that stands for itself to elsewhere. -/
theorem Steady.eq_of_leads {p q : Place} {name : String} (h : Steady t p) (hn : IsName name)
    (hl : Leads t [] (p ++ [name]) q) :
    q = p ++ [name] ∨ ∃ target, t.lookup (p ++ [name]) = some (.link target) := by
  obtain ⟨m, hm, hq⟩ := leads_append.1 hl
  obtain rfl := h.stands p (List.prefix_refl _) m hm
  cases hq with
  | still _ hs _ => exact absurd hs (by simp [hn.step])
  | up _ _ => exact absurd rfl hn.noParent
  | down _ _ _ _ hq => cases hq; exact .inl rfl
  | through _ _ _ ht _ => exact .inr ⟨_, ht⟩

/-- What a place is followed to: its canonical place, or, where nothing is there, what is written
in the link that stands there, or the place itself. -/
theorem follow_cases {p q : Place} (h : follow t p = .ok q) : t.canonical p = .ok q ∨
    (t.canonical p = .error .notFound ∧
      ((∃ d target, t.walk false linkLimit [] p = .ok (.found d (.link target)) ∧
        q = placePlainly p.dropLast target) ∨
      (∀ d target, t.walk false linkLimit [] p ≠ .ok (.found d (.link target))) ∧ q = p)) := by
  unfold follow at h
  split at h
  · next r hc => exact .inl (hc.trans h)
  · next e hc =>
    split at h
    · next he =>
      subst he
      split at h
      · next d target hw => exact .inr ⟨hc, .inl ⟨d, target, hw, (Except.ok.inj h).symm⟩⟩
      · next hw => exact .inr ⟨hc, .inr ⟨hw, (Except.ok.inj h).symm⟩⟩
    · cases h

theorem canonical_steady {p q : Place} (hs : ∀ part ∈ p, '/' ∉ part.toList)
    (h : t.canonical p = .ok q) : Steady t q := by
  obtain ⟨hl, -⟩ := canonical_leads h
  have hnamed := named_of_leads hl (by simp) hs
  exact ⟨hnamed, (linkFree_of_leads hl linkFree_nil).stands hnamed⟩

/-- A link that is found at the end of a place stands at that place, if the way to it leads nowhere
else. -/
theorem Steady.lookup_of_walk {p d : Place} {name target : String} (h : Steady t p)
    (hw : t.walk false linkLimit [] (p ++ [name]) = .ok (.found d (.link target))) :
    t.lookup (p ++ [name]) = some (.link target) := by
  cases walk_arrives _ _ _ _ hw with
  | found hl he =>
    -- a walk that ends by following its last part ends at no link
    exact absurd he (linkFree_of_leads hl linkFree_nil _ (List.prefix_refl _) _)
  | @link d init last _ _ hi hl he =>
    obtain ⟨rfl, hlast⟩ := List.append_inj' hi rfl
    obtain rfl := List.singleton_inj.1 hlast
    obtain rfl := h.stands p (List.prefix_refl _) _ hl
    exact he

theorem follow_steady (ht : t.Sound) (hlinks : t.LinksReadPlainly) {p q : Place} {name : String}
    (h : Steady t p) (hn : IsName name) (hq : follow t (p ++ [name]) = .ok q) : Steady t q := by
  have hnames : ∀ m ∈ p ++ [name], IsName m := named_concat h.named hn
  rcases follow_cases hq with hc | ⟨hc, ⟨d, target, hw, rfl⟩ | ⟨hw, rfl⟩⟩
  · exact canonical_steady (fun m hm => (hnames m hm).noSlash) hc
  · -- the one case that the invariant does not survive by itself
    have hl := h.lookup_of_walk hw
    have hbase : ∀ m ∈ (p ++ [name]).dropLast, IsName m := by simpa using h.named
    exact ⟨named_placePlainly hbase target, hlinks _ _ hl hc⟩
  · refine ⟨hnames, h.stands.concat fun m hm => ?_⟩
    rcases h.eq_of_leads hn hm with rfl | ⟨target, hl⟩
    · rfl
    · exact absurd (ht.walk_link hl linkLimit (walk_of_canonical_notFound hc).2) (hw _ _)

theorem step_steady (ht : t.Sound) (hlinks : t.LinksReadPlainly) {p q : Place} {part : String}
    (h : Steady t p) (hs : '/' ∉ part.toList) (hq : step t p part = .ok q) : Steady t q := by
  unfold step at hq
  split at hq
  · obtain rfl := Except.ok.inj hq
    exact h
  · next hstill =>
    split at hq
    · obtain rfl := Except.ok.inj hq
      exact h.dropLast
    · next hup => exact follow_steady ht hlinks h ⟨by simpa using hstill, hup, hs⟩ hq

theorem foldlM_filter (ps : List String) (p : Place) :
    (ps.filter (!isStill ·)).foldlM (step t) p = ps.foldlM (step t) p := by
  induction ps generalizing p with
  | nil => rfl
  | cons part ps ih =>
    by_cases hs : isStill part = true
    · have hstep : step t p part = .ok p := if_pos hs
      rw [List.filter_cons_of_neg (by simp [hs]), List.foldlM_cons, hstep]
      exact ih p
    · rw [List.filter_cons_of_pos (by simp [hs]), List.foldlM_cons, List.foldlM_cons]
      exact congrArg _ (funext ih)

theorem resolve_components {path : String} (h : isAbsolute path = true) :
    resolve t path = (components path).foldlM (step t) [] := by
  rw [resolve, if_pos h, components, foldlM_filter]

theorem resolve_text {p : Place} (h : ∀ part ∈ p, '/' ∉ part.toList) :
    resolve t (Place.text p) = p.foldlM (step t) [] := by
  rw [resolve_components (isAbsolute_text p), components_text h, foldlM_filter]

/-- What every step keeps is true of the place that a path is resolved to. -/
theorem foldlM_keeps {P : Place → Prop}
    (hstep : ∀ {p q : Place} {part : String},
      P p → '/' ∉ part.toList → step t p part = .ok q → P q) :
    ∀ {ps : List String} {p q : Place}, P p → (∀ part ∈ ps, '/' ∉ part.toList) →
      ps.foldlM (step t) p = .ok q → P q
  | [], p, q, h, _, hq => by
    obtain rfl := Except.ok.inj hq
    exact h
  | part :: ps, p, q, h, hs, hq => by
    rw [List.foldlM_cons] at hq
    cases hm : step t p part with
    | error e => rw [hm] at hq; cases hq
    | ok m =>
      rw [hm] at hq
      have hP : P m := hstep h (hs part List.mem_cons_self) hm
      exact foldlM_keeps hstep hP (fun r hr => hs r (List.mem_cons_of_mem _ hr)) hq

/-- What every step keeps is true of what a path is resolved to, also when it is read from the
working directory. -/
theorem resolve_keeps {P : Place → Prop} (hworking : ∀ name ∈ t.workingDirectory, '/' ∉ name.toList)
    (hstep : ∀ {p q : Place} {part : String}, P p → '/' ∉ part.toList → step t p part = .ok q → P q)
    (hnil : P []) {path : String} {p : Place} (h : resolve t path = .ok p) : P p := by
  refine foldlM_keeps hstep hnil (fun part hm => ?_) h
  split at hm
  · exact noSlash_of_mem_parts hm
  · rcases List.mem_append.1 hm with hm | hm
    · exact hworking part hm
    · exact noSlash_of_mem_parts hm

theorem resolve_steady (ht : t.Sound) (hlinks : t.LinksReadPlainly) {path : String} {p : Place}
    (h : resolve t path = .ok p) : Steady t p :=
  resolve_keeps ht.working_noSlash (step_steady ht hlinks) steady_nil h

/-! ## Rooted paths -/

theorem new_eq {path : String} {r : RootedPath} (h : RootedPath.new t path = .ok r) :
    resolve t path = .ok r.path ∧ r.root = r.path := by
  unfold RootedPath.new at h
  split at h
  · next p hp =>
    obtain rfl := Except.ok.inj h
    exact ⟨hp, rfl⟩
  · cases h

theorem join_eq {r s : RootedPath} {rel : String} (h : r.join t rel = .ok s) :
    resolve t (joinText (Place.text r.path) rel) = .ok s.path ∧ s.root = r.root ∧
    s.root <+: s.path := by
  unfold RootedPath.join at h
  simp only at h
  split at h
  · next p hp =>
    split at h
    · next hpre =>
      obtain rfl := Except.ok.inj h
      exact ⟨hp, rfl, List.isPrefixOf_iff_prefix.1 hpre⟩
    · cases h
  · cases h

theorem reRoot_eq {r s : RootedPath} {rel : String} (h : r.reRoot t rel = .ok s) :
    ∃ m, r.join t rel = .ok m ∧ s = ⟨m.path, m.path⟩ := by
  unfold RootedPath.reRoot at h
  split at h
  · next m hm => exact ⟨m, hm, (Except.ok.inj h).symm⟩
  · cases h

theorem Reachable.root_isPrefix {r : RootedPath} (h : Reachable t r) : r.root <+: r.path := by
  cases h with
  | new h => exact ⟨[], by rw [List.append_nil, (new_eq h).2]⟩
  | join _ h => exact (join_eq h).2.2
  | reRoot _ h =>
    obtain ⟨m, -, rfl⟩ := reRoot_eq h
    exact List.prefix_refl _

theorem Reachable.resolved {r : RootedPath} (h : Reachable t r) :
    ∃ path, resolve t path = .ok r.path := by
  cases h with
  | new h => exact ⟨_, (new_eq h).1⟩
  | join _ h => exact ⟨_, (join_eq h).1⟩
  | reRoot _ h =>
    obtain ⟨m, hm, rfl⟩ := reRoot_eq h
    exact ⟨_, (join_eq hm).1⟩

theorem Reachable.steady (ht : t.Sound) (hlinks : t.LinksReadPlainly) {r : RootedPath}
    (h : Reachable t r) : Steady t r.path := by
  obtain ⟨path, hp⟩ := h.resolved
  exact resolve_steady ht hlinks hp

theorem Reachable.confined (ht : t.Sound) (hlinks : t.LinksReadPlainly) {r : RootedPath}
    (h : Reachable t r) : r.Confined t := by
  have hleads : ∀ q, Leads t [] r.path q → r.root <+: q := by
    intro q hq
    rw [(h.steady ht hlinks).stands _ (List.prefix_refl _) q hq]
    exact h.root_isPrefix
  exact ⟨fun q hq => hleads q (canonical_leads hq).1, hleads⟩

/-! ## A link that is read as another place -/

theorem canonical_directory (ht : t.Sound) {p : Place} (h : t.lookup p = some .directory)
    (hnul : p.any (·.contains '\x00') = false) (hlen : p.all (·.utf8ByteSize ≤ nameLimit) = true) :
    t.canonical p = .ok p := by
  have hw : t.walk true linkLimit [] p = .ok (.found p .directory) := by
    have hw := ht.walk_text true linkLimit h []
    rw [List.append_nil, if_pos hlen] at hw
    rw [hw, walk, h]
  unfold canonical
  rw [hnul, hw]
  rfl

theorem step_name {p : Place} {name : String} (hn : IsName name) :
    step t p name = follow t (p ++ [name]) := by
  simp [step, hn.step, hn.noParent]

theorem foldlM_directories (ht : t.Sound) : ∀ (ps : List String) (here : Place),
    t.lookup (here ++ ps) = some .directory → (here ++ ps).any (·.contains '\x00') = false →
    (here ++ ps).all (·.utf8ByteSize ≤ nameLimit) = true →
    ps.foldlM (step t) here = .ok (here ++ ps)
  | [], here, _, _, _ => by simp [pure, Except.pure]
  | name :: ps, here, h, hnul, hlen => by
    have hpre : here ++ [name] <+: here ++ name :: ps := ⟨ps, by simp⟩
    have hdir := ht.directory_of_isPrefix h hpre
    have hn : IsName name := ht.named _ _ hdir name (by simp)
    have hc : t.canonical (here ++ [name]) = .ok (here ++ [name]) := by
      refine canonical_directory ht hdir ?_ ?_
      · rw [List.any_eq_false] at hnul ⊢
        exact fun m hm => hnul m (hpre.subset hm)
      · rw [List.all_eq_true] at hlen ⊢
        exact fun m hm => hlen m (hpre.subset hm)
    have hstep : step t here name = .ok (here ++ [name]) := by simp [step_name hn, follow, hc]
    have ih := foldlM_directories ht ps (here ++ [name]) (by simpa using h)
      (by simpa using hnul) (by simpa using hlen)
    rw [List.foldlM_cons, hstep]
    show ps.foldlM (step t) (here ++ [name]) = _
    simpa using ih

theorem foldlM_up : ∀ (k : Nat) (p : Place),
    (List.replicate k "..").foldlM (step t) p = .ok (p.take (p.length - k))
  | 0, p => by simp [pure, Except.pure]
  | k + 1, p => by
    have hstep : step t p ".." = .ok p.dropLast := rfl
    have ih := foldlM_up k p.dropLast
    rw [List.replicate_succ, List.foldlM_cons, hstep]
    refine ih.trans (congrArg Except.ok ?_)
    rw [List.dropLast_eq_take, List.take_take, List.length_take]
    congr 1
    omega

theorem step_link (ht : t.Sound) {p : Place} {name target : String}
    (hl : t.lookup (p ++ [name]) = some (.link target))
    (hc : t.canonical (p ++ [name]) = .error .notFound) :
    step t p name = .ok (placePlainly p target) := by
  have hn : IsName name := ht.named _ _ hl name (by simp)
  have hw := ht.walk_link hl linkLimit (walk_of_canonical_notFound hc).2
  simp [step_name hn, follow, hc, hw]

/-- Every place on the way to what is written in a link that leads nowhere is a root. -/
theorem new_of_link (ht : t.Sound) {p q : Place} {target : String}
    (hl : t.lookup p = some (.link target)) (hc : t.canonical p = .error .notFound)
    (hq : q <+: placePlainly p.dropLast target) : ∃ path, RootedPath.new t path = .ok ⟨q, q⟩ := by
  obtain ⟨d, name, rfl⟩ : ∃ d name, p = d ++ [name] := by
    rcases List.eq_nil_or_concat p with rfl | ⟨d, name, hp⟩
    · cases hl
    · exact ⟨d, name, by rw [hp, List.concat_eq_append]⟩
  rw [List.dropLast_concat] at hq
  have hdir := ht.parents d name _ hl
  have hnames : ∀ m ∈ d ++ [name], IsName m := ht.named _ _ hl
  obtain ⟨hnul, hlen⟩ := walk_of_canonical_notFound hc
  rw [ht.walk_text true linkLimit hdir] at hlen
  have hshort : d.all (·.utf8ByteSize ≤ nameLimit) = true := by
    split at hlen
    · assumption
    · exact absurd rfl hlen
  rw [List.any_append, Bool.or_eq_false_iff] at hnul
  let back := List.replicate ((placePlainly d target).length - q.length) ".."
  refine ⟨Place.text (d ++ [name] ++ back), ?_⟩
  have hslashes : ∀ part ∈ d ++ [name] ++ back, '/' ∉ part.toList := by
    intro m hm
    rcases List.mem_append.1 hm with hm | hm
    · exact (hnames m hm).noSlash
    · rw [List.eq_of_mem_replicate hm]
      decide
  have hresolve : resolve t (Place.text (d ++ [name] ++ back)) = .ok q := by
    have htake : (placePlainly d target).take ((placePlainly d target).length -
        ((placePlainly d target).length - q.length)) = q := by
      have hlen := hq.length_le
      rw [List.prefix_iff_eq_take.1 hq, List.length_take]
      congr 1
      omega
    rw [resolve_text hslashes, List.append_assoc, List.foldlM_append,
      foldlM_directories ht d [] hdir hnul.1 hshort]
    show ([name] ++ back).foldlM (step t) d = .ok q
    rw [List.singleton_append, List.foldlM_cons, step_link ht hl hc]
    show back.foldlM (step t) (placePlainly d target) = .ok q
    rw [foldlM_up, htake]
  rw [RootedPath.new, hresolve]

theorem linksReadPlainly_of_confined (ht : t.Sound) (h : ∀ r, Reachable t r → r.Confined t) :
    t.LinksReadPlainly := by
  intro p target hl hc q hq m hm
  obtain ⟨path, hnew⟩ := new_of_link ht hl hc hq
  have hroot : q <+: m := (h _ (.new hnew)).leads m hm
  have hbase : ∀ name ∈ p.dropLast, IsName name :=
    fun name hn => ht.named _ _ hl name (List.dropLast_subset _ hn)
  have hf : t.LinkFree ([] ++ q) := (linkFree_of_leads hm linkFree_nil).of_isPrefix hroot
  exact eq_of_linkFree hm hf fun name hn => named_placePlainly hbase target name (hq.subset hn)

end RootedPath
end FetchPlan
