import FetchPlan.Proofs.NamedEntries

/-!
Joins in several steps. In a tree whose links all lead to something, a path is resolved to a place
that exists without links up to some name and is missing from there on, and every place on the way
to it is followed to itself (`Fixed`). Each step of the resolution keeps this (`step_fixed`), so
the path of a resolved place is resolved to it again (`resolve_again`), and joining two paths one
after the other is joining what they make together (`join_join`).

Assumed of the tree (`Linked`): its entries stand in directories, its names are ones that the
system takes, and each link leads to something through finitely many links. A link that leads
nowhere is read as it is written, and what is written need not be resolved to itself.
-/
namespace FetchPlan

open Files Files.Tree

namespace Files.Tree

/-- A tree with names that the system takes, whose links all lead to something that is there,
through however many links. -/
structure Linked (t : Tree) : Prop where
  sound : t.Sound
  nameable : ∀ p e, t.lookup p = some e → Nameable p
  reaches : ∀ p target, t.lookup p = some (.link target) →
    ∃ k q e, t.walk true k [] p = .ok (.found q e)

variable {t : Tree}

/-- A walk that may follow more links finds the same, unless it ran out of them. -/
theorem walk_of_le (f : Bool) {k m : Nat} (hkm : k ≤ m) (here : Place) (ps : List String) :
    t.walk f k here ps = .error .tooManyLinks ∨ t.walk f m here ps = t.walk f k here ps := by
  fun_induction t.walk f k here ps generalizing m with
  | case1 k here e he => exact .inr (by rw [walk, he])
  | case2 k here hn => exact .inr (by rw [walk, hn])
  | case3 k here part rest hd hs ih => simpa [walk, hd, hs] using ih hkm
  | case4 k here rest hd hs ih => simpa [walk, hd, hs] using ih hkm
  | case5 k here part rest hd hs hu hlen => exact .inr (by simp [walk, hd, hs, hu, hlen])
  | case6 k here part hd hs hu hlen hn => exact .inr (by simp [walk, hd, hs, hu, hlen, hn])
  | case7 k here part rest hd hs hu hlen hn hr =>
    exact .inr (by simp [walk, hd, hs, hu, hlen, hn, hr])
  | case8 k here part rest hd hs hu hlen target hl hend =>
    exact .inr (by simp [walk, hd, hs, hu, hlen, hl, hend])
  | case9 here part rest hd hs hu hlen target hl hend => exact .inl rfl
  | case10 here part rest hd hs hu hlen target hl hend k ih =>
    obtain ⟨m, rfl⟩ : ∃ m', m = m' + 1 := ⟨m - 1, by omega⟩
    have hend : ¬ (rest = [] ∧ f = false) := by simpa using hend
    have hk : k ≤ m := by omega
    simpa [walk, hd, hs, hu, hlen, hl, hend] using ih hk
  | case11 k here part rest hd hs hu hlen e hne he ih =>
    cases e with
    | directory => simpa [walk, hd, hs, hu, hlen, he] using ih hkm
    | file content => simpa [walk, hd, hs, hu, hlen, he] using ih hkm
    | link target => exact absurd rfl (hne target)
  | case12 k here part rest e hne he =>
    cases e with
    | directory => exact absurd rfl hne
    | file content => exact .inr (by simp [walk, he])
    | link target => exact .inr (by simp [walk, he])
  | case13 k here part rest hn => exact .inr (by simp [walk, hn])

namespace Linked

theorem canonical_link (ht : t.Linked) {p : Place} {target : String}
    (hl : t.lookup p = some (.link target)) : t.canonical p ≠ .error .notFound := by
  obtain ⟨k, q, e, hw⟩ := ht.reaches p target hl
  have hwalk : t.walk true linkLimit [] p = .error .tooManyLinks ∨
      t.walk true linkLimit [] p = .ok (.found q e) := by
    rcases Nat.le_total k linkLimit with hk | hk
    · rcases walk_of_le true hk [] p with h | h
      · rw [hw] at h
        cases h
      · exact .inr (h.trans hw)
    · exact (walk_of_le true hk [] p).imp id fun h => h.symm.trans hw
  unfold canonical
  split
  · decide
  · rcases hwalk with h | h
    · rw [h]
      decide
    · rw [h]
      simp

/-- What exists without links is reached as it is written. -/
theorem plain_of_lookup (ht : t.Linked) {p : Place} {e : Entry} (he : t.lookup p = some e)
    (hf : t.LinkFree p) : t.Plain p := by
  have hp := ht.nameable p e he
  refine ⟨fun name hn => (hp.names name hn).1,
    fun name hn => (hp.names name hn).2, hp.noNul, hf, ?_⟩
  rintro q ⟨rest, rfl⟩ hne
  have hrest : rest ≠ [] := by
    rintro rfl
    exact hne (by simp)
  exact passable_of_directory (ht.sound.directory_above rest hrest he)

end Linked
end Files.Tree

namespace RootedPath

variable {t : Tree}

/-- Whether no link stands at a place or on the way to it, and each place on the way is followed to
itself. -/
structure Fixed (t : Tree) (p : Place) : Prop where
  named : ∀ name ∈ p, IsName name
  linkFree : t.LinkFree p
  followed : ∀ q, q <+: p → q ≠ [] → follow t q = .ok q

theorem fixed_nil : Fixed t [] :=
  ⟨by simp, linkFree_nil, fun _ hq hne => absurd (List.prefix_nil.1 hq) hne⟩

theorem Fixed.of_isPrefix {p q : Place} (h : Fixed t p) (hq : q <+: p) : Fixed t q :=
  ⟨fun name hn => h.named name (hq.subset hn), h.linkFree.of_isPrefix hq,
    fun r hr => h.followed r (hr.trans hq)⟩

theorem fixed_of_plain (ht : t.Sound) {p : Place} (h : t.Plain p) : Fixed t p :=
  ⟨h.named, h.linkFree, fun _ hq _ => (h.of_isPrefix hq).follow_eq ht⟩

theorem follow_fixed (ht : t.Linked) {p q : Place} {name : String} (h : Fixed t p)
    (hn : IsName name) (hq : follow t (p ++ [name]) = .ok q) : Fixed t q := by
  have hnames : ∀ m ∈ p ++ [name], IsName m := named_concat h.named hn
  have hsteady : Steady t p := ⟨h.named, h.linkFree.stands h.named⟩
  rcases follow_cases hq with hc | ⟨hc, ⟨d, target, hw, -⟩ | ⟨-, rfl⟩⟩
  · -- what is there is followed to a place without links
    obtain ⟨hl, e, he⟩ := canonical_leads hc
    exact fixed_of_plain ht.sound (ht.plain_of_lookup he (linkFree_of_leads hl linkFree_nil))
  · exact absurd hc (ht.canonical_link (hsteady.lookup_of_walk hw))
  · -- what is missing is no link, and stays where it is
    refine ⟨hnames, h.linkFree.append fun target hl => ht.canonical_link hl hc, fun r hr hne => ?_⟩
    rcases List.prefix_concat_iff.1 hr with rfl | hr
    · exact hq
    · exact h.followed r hr hne

theorem step_fixed (ht : t.Linked) {p q : Place} {part : String} (h : Fixed t p)
    (hs : '/' ∉ part.toList) (hq : step t p part = .ok q) : Fixed t q := by
  unfold step at hq
  split at hq
  · obtain rfl := Except.ok.inj hq
    exact h
  · next hstill =>
    split at hq
    · obtain rfl := Except.ok.inj hq
      exact h.of_isPrefix (List.dropLast_prefix _)
    · next hup => exact follow_fixed ht h ⟨by simpa using hstill, hup, hs⟩ hq

theorem Fixed.foldlM_step : ∀ (rest : List String) {here : Place}, Fixed t (here ++ rest) →
    rest.foldlM (step t) here = .ok (here ++ rest)
  | [], here, _ => by simp [pure, Except.pure]
  | name :: rest, here, h => by
    have hname : IsName name := h.named name (by simp)
    have hstep : step t here name = .ok (here ++ [name]) := by
      rw [step_name hname]
      exact h.followed _ ⟨rest, by simp⟩ (by simp)
    have hgo : rest.foldlM (step t) (here ++ [name]) = .ok (here ++ [name] ++ rest) :=
      Fixed.foldlM_step rest (by simpa using h)
    rw [List.foldlM_cons, hstep]
    show rest.foldlM (step t) (here ++ [name]) = _
    simpa using hgo

theorem resolve_fixed (ht : t.Linked) {path : String} {p : Place} (h : resolve t path = .ok p) :
    Fixed t p :=
  resolve_keeps ht.sound.working_noSlash (step_fixed ht) fixed_nil h

theorem resolve_again (ht : t.Linked) {path : String} {p : Place} (h : resolve t path = .ok p) :
    resolve t (Place.text p) = .ok p := by
  have hfixed := resolve_fixed ht h
  rw [resolve_text fun name hn => (hfixed.named name hn).noSlash]
  exact hfixed.foldlM_step p

/-! ## Joins one after the other -/

/-- What is joined to a rooted path, up to the words of a refusal, is told by where its path leads.
-/
theorem join_congr {r s : RootedPath} {a b : String} (hroot : r.root = s.root)
    (h : resolve t (joinText r.text a) = resolve t (joinText s.text b)) :
    (r.join t a).mapError Error.kind = (s.join t b).mapError Error.kind := by
  unfold join
  simp only
  rw [show joinText (Place.text r.path) a = joinText r.text a from rfl,
    show joinText (Place.text s.path) b = joinText s.text b from rfl, h, hroot]
  cases resolve t (joinText s.text b) with
  | error e => rfl
  | ok p =>
    simp only
    split <;> rfl

/-- A relative path goes on from where the path before it leads. -/
theorem resolve_joinText {base path : String} {p : Place} (hbase : isAbsolute base = true)
    (hpath : isAbsolute path = false) (h : resolve t base = .ok p) :
    resolve t (joinText base path) = (components path).foldlM (step t) p := by
  rw [resolve_components hbase] at h
  rw [resolve_components (isAbsolute_joinText hbase path), components_joinText hpath,
    List.foldlM_append, h]
  rfl

/-- Two paths that are joined one after the other lead where the path leads that they make
together. -/
theorem resolve_joinText_joinText {base a b : String} {p : Place} (hbase : isAbsolute base = true)
    (hb : isAbsolute b = false) (h : resolve t (joinText base a) = .ok p) :
    resolve t (joinText base (joinText a b)) = (components b).foldlM (step t) p := by
  rw [← resolve_joinText (isAbsolute_joinText hbase a) hb h]
  have hsame := isAbsolute_joinText_relative a hb
  by_cases ha : isAbsolute a = true
  · -- an absolute path leaves the base behind
    rw [joinText_absolute (hsame.trans ha), joinText_absolute ha]
  · have ha : isAbsolute a = false := by simpa using ha
    rw [resolve_components (isAbsolute_joinText hbase _),
      resolve_components (isAbsolute_joinText (isAbsolute_joinText hbase a) b),
      components_joinText (hsame.trans ha), components_joinText hb, components_joinText hb,
      components_joinText ha, List.append_assoc]

/-- In a tree whose links all lead to something, the path of a resolved place is resolved to it
again and no link stands on the way to it; and joining two paths one after the other comes to the
same as joining the path that they make together: the same rooted path, or a refusal of the same
kind. -/
theorem join_join (t : Tree) (ht : t.Linked) :
    (∀ path p, resolve t path = .ok p → resolve t (Place.text p) = .ok p ∧ t.LinkFree p) ∧
    ∀ (r m : RootedPath) (a b : String), r.join t a = .ok m → isAbsolute b = false →
      (m.join t b).mapError Error.kind = (r.join t (joinText a b)).mapError Error.kind := by
  refine ⟨fun path p h => ⟨resolve_again ht h, (resolve_fixed ht h).linkFree⟩,
    fun r m a b h hb => ?_⟩
  obtain ⟨hm, hroot, -⟩ := join_eq h
  have hfirst : resolve t m.text = .ok m.path := resolve_again ht hm
  refine join_congr hroot ?_
  calc resolve t (joinText m.text b) = (components b).foldlM (step t) m.path :=
        resolve_joinText (isAbsolute_text m.path) hb hfirst
    _ = resolve t (joinText r.text (joinText a b)) :=
        (resolve_joinText_joinText (isAbsolute_text r.path) hb hm).symm

/-- A directory with two links that lead to it, one of them by way of the other. -/
def aliases : Tree :=
  ⟨[(["src"], .directory), (["src", "real"], .directory), (["src", "real", "notes.txt"], .file []),
    (["src", "alias"], .link "real"), (["src", "far"], .link "/src/real/../alias")], []⟩

theorem mem_aliases {p : Place} {e : Entry} (h : aliases.lookup p = some e) :
    p = [] ∨ (p, e) ∈ aliases.nodes := by
  by_cases hp : p = []
  · exact .inl hp
  · exact .inr (mem_of_lookup h hp)

theorem lookup_src : aliases.lookup ["src"] = some .directory := rfl

theorem lookup_real : aliases.lookup ["src", "real"] = some .directory := rfl

theorem lookup_alias : aliases.lookup ["src", "alias"] = some (.link "real") := rfl

theorem lookup_far : aliases.lookup ["src", "far"] = some (.link "/src/real/../alias") := rfl

theorem short_aliases : ∀ name ∈ ["src", "real", "alias", "far"],
    ¬ name.utf8ByteSize > nameLimit := by decide

theorem walk_alias :
    aliases.walk true linkLimit [] ["src", "alias"] = .ok (.found ["src", "real"] .directory) := by
  have hparts : parts "real" = ["real"] := by decide
  have hstart : start ["src"] "real" = ["src"] := by decide
  simp [walk, linkLimit, lookup_nil, lookup_src, lookup_real, lookup_alias, hparts, hstart,
    isStill, short_aliases]

theorem walk_far :
    aliases.walk true linkLimit [] ["src", "far"] = .ok (.found ["src", "real"] .directory) := by
  have hparts : parts "/src/real/../alias" = ["", "src", "real", "..", "alias"] := by decide
  have hstart : start ["src"] "/src/real/../alias" = [] := by decide
  have hpartsReal : parts "real" = ["real"] := by decide
  have hstartReal : start ["src"] "real" = ["src"] := by decide
  simp [walk, linkLimit, lookup_nil, lookup_src, lookup_real, lookup_alias, lookup_far, hparts,
    hstart, hpartsReal, hstartReal, isStill, short_aliases]

theorem aliases_linked : aliases.Linked := by
  have hnames : ∀ node ∈ aliases.nodes,
      ∀ name ∈ node.1, IsName name ∧ name.utf8ByteSize ≤ nameLimit := by decide
  have hnul : ∀ node ∈ aliases.nodes, node.1.any (·.contains '\x00') = false := by simp [aliases]
  refine ⟨sound_of_nodes (fun node hn name hm => (hnames node hn name hm).1) (by decide) rfl,
    fun p e h => ?_, fun p target h => ?_⟩
  · rcases mem_aliases h with rfl | h
    · exact ⟨by simp, by simp⟩
    · exact ⟨hnames _ h, hnul _ h⟩
  · rcases mem_aliases h with rfl | h
    · cases h
    · simp only [aliases, List.mem_cons, Prod.mk.injEq, reduceCtorEq, and_false, List.not_mem_nil,
        or_false, false_or] at h
      rcases h with ⟨rfl, -⟩ | ⟨rfl, -⟩
      · exact ⟨_, _, _, walk_alias⟩
      · exact ⟨_, _, _, walk_far⟩

theorem plain_src : aliases.Plain ["src"] :=
  aliases_linked.sound.plain_entry (d := []) rfl ⟨by decide, by simp⟩ lookup_src (by simp)

theorem plain_new : aliases.Plain ["src", "real", "new"] :=
  @Sound.plain_missing _ ["src", "real"] "new" aliases_linked.sound [] rfl ⟨by decide, by simp⟩ rfl

theorem join_far : (⟨["src"], ["src"]⟩ : RootedPath).join aliases "far/new" =
    .ok ⟨["src"], ["src", "real", "new"]⟩ := by
  have hparts : components "far/new" = ["far", "new"] :=
    components_intercalate_names (p := ["far", "new"]) (by decide)
  have hfar : step aliases ["src"] "far" = .ok ["src", "real"] := by
    have hcanonical : aliases.canonical ["src", "far"] = .ok ["src", "real"] := by
      unfold canonical
      rw [walk_far]
      simp
    rw [step_name (by decide)]
    unfold follow
    rw [show ["src"] ++ ["far"] = ["src", "far"] from rfl, hcanonical]
  refine join_of_resolve ?_ (by decide)
  rw [resolve_joinText (isAbsolute_text _) (by decide)
    (plain_src.resolve_text aliases_linked.sound), hparts, List.foldlM_cons, hfar]
  exact plain_new.foldlM_step aliases_linked.sound ["new"]

theorem join_join_aliases : aliases.Linked ∧
    (⟨["src"], ["src"]⟩ : RootedPath).join aliases "far/new" =
      .ok ⟨["src"], ["src", "real", "new"]⟩ ∧
    ((⟨["src"], ["src", "real", "new"]⟩ : RootedPath).join aliases
      "../notes.txt").mapError Error.kind =
      ((⟨["src"], ["src"]⟩ : RootedPath).join aliases (joinText "far/new" "../notes.txt")).mapError
        Error.kind :=
  ⟨aliases_linked, join_far, (join_join aliases aliases_linked).2 _ _ _ _ join_far (by decide)⟩

end RootedPath
end FetchPlan
