import FetchPlan.Proofs.Confinement

/-!
Places that are reached as they are written. Where no link stands at a place or on the way to it
and no file above it, the system goes as the names say until it arrives or a name is not there
(`Plain.walk_cases`). So the path of such a place is resolved to the place, whether it exists or
not (`Plain.resolve_text`), and what is found by that path is what stands there
(`Plain.entry_text`).
-/
namespace FetchPlan

open Files Tree

namespace Files.Tree

/-- Whether a place is reached as it is written: the system takes each name, and on the way stands
neither a link, which leads elsewhere, nor a file, which leads nowhere. -/
structure Plain (t : Tree) (p : Place) : Prop where
  named : ∀ name ∈ p, IsName name
  short : ∀ name ∈ p, name.utf8ByteSize ≤ nameLimit
  noNul : p.any (·.contains '\x00') = false
  linkFree : t.LinkFree p
  passable : ∀ q, q <+: p → q ≠ p → t.Passable q

namespace Plain

variable {t : Tree} {p q : Place}

theorem of_isPrefix (h : t.Plain p) (hq : q <+: p) : t.Plain q := by
  refine ⟨fun name hn => h.named name (hq.subset hn),
    fun name hn => h.short name (hq.subset hn), ?_,
    h.linkFree.of_isPrefix hq, fun r hr hne => h.passable r (hr.trans hq) ?_⟩
  · have hnul := h.noNul
    rw [List.any_eq_false] at hnul ⊢
    exact fun name hn => hnul name (hq.subset hn)
  · rintro rfl
    exact hne (hr.eq_of_length_le hq.length_le)

/-- The walk arrives at what stands there, or stops where a name is missing. -/
theorem walk_cases (ht : t.Sound) (h : t.Plain p) (f : Bool) (k : Nat) :
    ∀ (rest : List String) {here : Place},
    here ++ rest = p → t.lookup here = some .directory →
    (∃ e, t.lookup p = some e ∧ t.walk f k here rest = .ok (.found p e)) ∨
      t.lookup p = none ∧
        ((∃ d name, t.walk f k here rest = .ok (.missing d name)) ∨
          t.walk f k here rest = .error .notFound)
  | [], here, hp, hhere => by
    obtain rfl : here = p := by simpa using hp
    exact .inl ⟨_, hhere, by rw [walk, hhere]⟩
  | name :: rest, here, hp, hhere => by
    have hmem : name ∈ p := by simp [← hp]
    have hbelow : here ++ [name] <+: p := ⟨rest, by simpa using hp⟩
    have hname := h.named name hmem
    have hlen : ¬ name.utf8ByteSize > nameLimit := Nat.not_lt.2 (h.short name hmem)
    rw [walk, hhere]
    simp only [hname.step, hname.noParent, hlen, Bool.false_eq_true, if_false]
    have hgo (hdir : t.lookup (here ++ [name]) = some .directory) :=
      walk_cases ht h f k rest (by simpa using hp) hdir
    cases hl : t.lookup (here ++ [name]) with
    | none =>
      -- nothing stands below what is missing
      have hnone : t.lookup p = none := by
        by_cases hr : rest = []
        · rw [← hl, ← hp, hr]
        · refine Option.eq_none_iff_forall_ne_some.2 fun e he => ?_
          have hdir :=
            ht.directory_above rest hr (p := here ++ [name]) (e := e) (by simpa [hp] using he)
          rw [hl] at hdir
          cases hdir
      refine .inr ⟨hnone, ?_⟩
      by_cases hr : rest = []
      · exact .inl ⟨here, name, by simp [hr]⟩
      · exact .inr (by simp [hr])
    | some e =>
      cases e with
      | directory => exact hgo hl
      | link target => exact absurd hl (h.linkFree _ hbelow target)
      | file content =>
        -- a file stands at the end of the way only
        obtain rfl : here ++ [name] = p := by
          by_contra hne
          exact h.passable _ hbelow hne content hl
        obtain rfl : rest = [] := by simpa using hp
        exact .inl ⟨_, hl, by simp [walk, hl]⟩

theorem canonical_of_lookup (ht : t.Sound) (h : t.Plain p) {e : Entry} (he : t.lookup p = some e) :
    t.canonical p = .ok p := by
  rcases h.walk_cases ht true linkLimit p rfl (lookup_nil t) with ⟨e', -, hwalk⟩ | ⟨hnone, -⟩
  · unfold canonical
    rw [h.noNul, hwalk]
    rfl
  · rw [he] at hnone
    cases hnone

theorem canonical_of_none (ht : t.Sound) (h : t.Plain p) (hnone : t.lookup p = none) :
    t.canonical p = .error .notFound := by
  unfold canonical
  rw [h.noNul]
  rcases h.walk_cases ht true linkLimit p rfl (lookup_nil t) with ⟨e, he, -⟩
    | ⟨-, ⟨d, name, hwalk⟩ | hwalk⟩
  · rw [he] at hnone
    cases hnone
  · rw [hwalk]
    rfl
  · rw [hwalk]
    rfl

theorem follow_eq (ht : t.Sound) (h : t.Plain p) : RootedPath.follow t p = .ok p := by
  unfold RootedPath.follow
  cases hl : t.lookup p with
  | some e => rw [h.canonical_of_lookup ht hl]
  | none =>
    rw [h.canonical_of_none ht hl]
    rcases h.walk_cases ht false linkLimit p rfl (lookup_nil t) with ⟨e, he, -⟩
      | ⟨-, ⟨d, name, hwalk⟩ | hwalk⟩
    · rw [he] at hl
      cases hl
    · simp only [hwalk, if_true]
    · simp only [hwalk, if_true]

theorem foldlM_step (ht : t.Sound) : ∀ (rest : List String) {here : Place}, t.Plain (here ++ rest) →
    rest.foldlM (RootedPath.step t) here = .ok (here ++ rest)
  | [], here, _ => by simp [pure, Except.pure]
  | name :: rest, here, h => by
    have hname : IsName name := h.named name (by simp)
    have hstep : RootedPath.step t here name = .ok (here ++ [name]) := by
      rw [RootedPath.step_name hname]
      exact (h.of_isPrefix ⟨rest, by simp⟩).follow_eq ht
    have hgo : rest.foldlM (RootedPath.step t) (here ++ [name]) = .ok (here ++ [name] ++ rest) :=
      foldlM_step ht rest (by simpa using h)
    rw [List.foldlM_cons, hstep]
    show rest.foldlM (RootedPath.step t) (here ++ [name]) = _
    simpa using hgo

theorem resolve_text (ht : t.Sound) (h : t.Plain p) :
    RootedPath.resolve t (Place.text p) = .ok p := by
  rw [RootedPath.resolve_text fun name hn => (h.named name hn).noSlash]
  exact foldlM_step ht p h

theorem resolve_point (ht : t.Sound) (h : t.Plain p) :
    RootedPath.resolve t (Place.text (p ++ ["."])) = .ok p := by
  have hslashes : ∀ part ∈ p ++ ["."], '/' ∉ part.toList := by
    intro name hn
    rcases List.mem_append.1 hn with hn | hn
    · exact (h.named name hn).noSlash
    · rw [List.mem_singleton.1 hn]
      decide
  have hthere : p.foldlM (RootedPath.step t) [] = .ok p := foldlM_step ht p h
  rw [RootedPath.resolve_text hslashes, List.foldlM_append, hthere]
  rfl

theorem resolve_back (ht : t.Sound) {name : String} {rest : Place} (h : t.Plain (p ++ [name]))
    (hrest : t.Plain (p ++ rest)) :
    RootedPath.resolve t (Place.text (p ++ name :: ".." :: rest)) = .ok (p ++ rest) := by
  have hsplit : p ++ name :: ".." :: rest = (p ++ [name]) ++ ".." :: rest := by simp
  have hslashes : ∀ part ∈ (p ++ [name]) ++ ".." :: rest, '/' ∉ part.toList := by
    intro m hm
    rcases List.mem_append.1 hm with hm | hm
    · exact (h.named m hm).noSlash
    · rcases List.mem_cons.1 hm with rfl | hm
      · decide
      · exact (hrest.named m (List.mem_append_right p hm)).noSlash
  have hthere : (p ++ [name]).foldlM (RootedPath.step t) [] = .ok (p ++ [name]) :=
    foldlM_step ht _ h
  have hup : RootedPath.step t (p ++ [name]) ".." = .ok p := congrArg Except.ok List.dropLast_concat
  rw [hsplit, RootedPath.resolve_text hslashes, List.foldlM_append, hthere]
  show (".." :: rest).foldlM (RootedPath.step t) (p ++ [name]) = _
  rw [List.foldlM_cons, hup]
  exact foldlM_step ht rest hrest

theorem entry_text (ht : t.Sound) (h : t.Plain p) (hp : p ≠ [])
    (hnul : (Place.text p).contains '\x00' = false)
    (hlen : (Place.text p).utf8ByteSize < pathLimit) :
    t.entry true (Place.text p) = (t.lookup p).elim (.error .notFound) .ok := by
  have hparts : parts (Place.text p) = "" :: p :=
    parts_text hp fun name hn => (h.named name hn).noSlash
  have hne : Place.text p ≠ "" := by simp [Place.text]
  have hreach : t.reach true (Place.text p) = t.walk true linkLimit [] p := by
    have hshort : ¬ (Place.text p).utf8ByteSize ≥ pathLimit := Nat.not_le.2 hlen
    rw [reach, hnul, if_neg (by simp), if_neg hne, if_neg hshort, start, if_pos (isAbsolute_text p),
      hparts, walk, lookup_nil]
    rfl
  unfold entry
  rw [hreach]
  rcases h.walk_cases ht true linkLimit p rfl (lookup_nil t) with ⟨e, he, hwalk⟩
    | ⟨hnone, ⟨d, name, hwalk⟩ | hwalk⟩
  · rw [hwalk, he]
    rfl
  · rw [hwalk, hnone]
    rfl
  · rw [hwalk, hnone]
    rfl

end Plain

end Files.Tree

namespace RootedPath

variable {t : Tree} {p : Place}

theorem new_text (ht : t.Sound) (h : t.Plain p) : new t (Place.text p) = .ok ⟨p, p⟩ := by
  rw [new, h.resolve_text ht]

theorem join_of_resolve {r : RootedPath} {rel : String}
    (h : resolve t (joinText (Place.text r.path) rel) = .ok p) (hroot : r.root <+: p) :
    r.join t rel = .ok ⟨r.root, p⟩ := by
  have hroot : r.root.isPrefixOf p = true := List.isPrefixOf_iff_prefix.2 hroot
  unfold join
  simp only [h, hroot, if_true]

theorem join_text (ht : t.Sound) (h : t.Plain p) {r : RootedPath} {rel : String}
    (htext : joinText (Place.text r.path) rel = Place.text p) (hroot : r.root <+: p) :
    r.join t rel = .ok ⟨r.root, p⟩ := by
  refine join_of_resolve ?_ hroot
  rw [htext, h.resolve_text ht]

theorem join_point (ht : t.Sound) {r : RootedPath} (h : t.Plain r.path)
    (htext : joinText (Place.text r.path) "." = Place.text (r.path ++ ["."]))
    (hroot : r.root <+: r.path) : r.join t "." = .ok r := by
  refine join_of_resolve ?_ hroot
  rw [htext, h.resolve_point ht]

end RootedPath
end FetchPlan
