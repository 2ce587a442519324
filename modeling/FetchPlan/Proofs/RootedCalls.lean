import FetchPlan.Proofs.ComposedJoins
import FetchPlan.Proofs.RefusableSteps
import FetchPlan.Proofs.ResolvedPlaces

/-!
Calls on rooted paths. Whatever is joined to a rooted path or made a root, the root and the path
that come of it are places of names, and the path is the root or lies below it (`WellFormed`). One
call keeps this (`WellFormed.call`), and so does a run of calls (`WellFormed.run`), which also
never gets above the root that it began with. A call that is refused ends the run
(`run_append_error`): its path cannot be resolved, or leads out of the root (`refused_of_call`).

Calls are any list of joins and of roots made of joins. Assumed is only that no name of the
working directory holds a slash. A run that fails does so at one call, and the calls after it are
not made.
-/
namespace FetchPlan.RootedPath

open Files Files.Tree

inductive Call where
  | join (rel : String)
  | reRoot (rel : String)
  deriving DecidableEq, Repr

def Call.rel : Call → String
  | .join rel => rel
  | .reRoot rel => rel

def Call.answer (t : Tree) (r : RootedPath) : Call → Except Error RootedPath
  | .join rel => r.join t rel
  | .reRoot rel => r.reRoot t rel

/-- Calls one after the other, each on what the one before it gave, up to the first that is
refused. -/
def run (t : Tree) (first : RootedPath) (calls : List Call) : Except Error RootedPath :=
  calls.foldlM (fun r call => call.answer t r) first

/-- Whether a place is made of names, so that its text is absolute, has neither a point nor two
points between its slashes, and has the names for its components. -/
structure Spelled (p : Place) : Prop where
  named : ∀ name ∈ p, IsName name
  absolute : isAbsolute (Place.text p) = true
  noPoints : ∀ part ∈ parts (Place.text p), part ≠ "." ∧ part ≠ ".."
  components_text : components (Place.text p) = p

/-- What holds of a rooted path that calls lead to, beginning with a root. -/
structure WellFormed (first : Place) (r : RootedPath) : Prop where
  root : Spelled r.root
  path : Spelled r.path
  path_below : r.root <+: r.path
  root_below_first : first <+: r.root
  path_below_first : first <+: r.path
  /-- What leads from the root to the path leads there when it is joined to the root. -/
  rejoined : isAbsolute (joinText (Place.text r.root) r.subpath) = true ∧
    components (joinText (Place.text r.root) r.subpath) = r.path
  subpath_eq_point : r.subpath = "." ↔ r.path = r.root

/-- Why a call is refused: its path cannot be resolved, or it leads to a place that is not below
the root. -/
inductive Refused (t : Tree) (r : RootedPath) (rel : String) : Error → Prop
  | unresolved {e : IoFailure} : resolve t (joinText r.text rel) = .error e →
      Refused t r rel (.io "resolve path" (joinText r.text rel) e)
  | escape {p : Place} : resolve t (joinText r.text rel) = .ok p → ¬ r.root <+: p →
      Refused t r rel (.pathEscape (joinText r.text rel) (Place.text r.root))

/-! ## Well-formed paths -/

theorem spelled_of_named {p : Place} (h : ∀ name ∈ p, IsName name) : Spelled p :=
  ⟨h, isAbsolute_text p, parts_text_ne h, components_text_names h⟩

section Subpath

variable {root rest : Place}

theorem subpath_append (hrest : rest ≠ []) :
    subpath ⟨root, root ++ rest⟩ = "/".intercalate rest := by
  unfold subpath
  rw [List.drop_left]
  cases rest with
  | nil => exact absurd rfl hrest
  | cons name rest => rfl

theorem subpath_self : subpath ⟨root, root⟩ = "." := by
  unfold subpath
  rw [List.drop_length]

/-- The path from the root on is relative, and has the names below the root for its components. -/
theorem components_subpath (root : Place) (h : ∀ name ∈ rest, IsName name) :
    isAbsolute (subpath ⟨root, root ++ rest⟩) = false ∧
    components (subpath ⟨root, root ++ rest⟩) = rest := by
  by_cases hrest : rest = []
  · subst hrest
    rw [List.append_nil, subpath_self]
    exact ⟨rfl, rfl⟩
  · rw [subpath_append hrest]
    exact ⟨isAbsolute_intercalate h, components_intercalate_names h⟩

end Subpath

theorem wellFormed_of_named {first : Place} {r : RootedPath} (hpath : ∀ name ∈ r.path, IsName name)
    (hbelow : r.root <+: r.path) (hfirst : first <+: r.root) : WellFormed first r := by
  obtain ⟨root, path⟩ := r
  have hbelow : root <+: path := hbelow
  have hfirst : first <+: root := hfirst
  obtain ⟨rest, rfl⟩ := hbelow
  have hroot : ∀ name ∈ root, IsName name :=
    fun name hn => hpath name (List.mem_append_left rest hn)
  have hrest : ∀ name ∈ rest, IsName name :=
    fun name hn => hpath name (List.mem_append_right root hn)
  obtain ⟨hrelative, hcomponents⟩ := components_subpath root hrest
  refine ⟨spelled_of_named hroot, spelled_of_named hpath, List.prefix_append root rest, hfirst,
    hfirst.trans (List.prefix_append root rest), ⟨isAbsolute_joinText (isAbsolute_text root) _, ?_⟩,
    fun h => ?_, fun h => ?_⟩
  · rw [components_joinText hrelative, components_text_names hroot, hcomponents]
  · rw [h] at hcomponents
    obtain rfl : [] = rest := hcomponents
    exact List.append_nil root
  · obtain rfl : rest = [] := by simpa using h
    rw [List.append_nil, subpath_self]

/-! ## One call -/

variable {t : Tree} {r s : RootedPath}

theorem answer_eq {call : Call} (h : call.answer t r = .ok s) :
    resolve t (joinText r.text call.rel) = .ok s.path ∧ r.root <+: s.root ∧ s.root <+: s.path := by
  cases call with
  | join rel =>
    obtain ⟨hresolved, hroot, hbelow⟩ := join_eq h
    exact ⟨hresolved, hroot ▸ List.prefix_refl _, hbelow⟩
  | reRoot rel =>
    obtain ⟨m, hm, rfl⟩ := reRoot_eq h
    obtain ⟨hresolved, hroot, hbelow⟩ := join_eq hm
    exact ⟨hresolved, hroot ▸ hbelow, List.prefix_refl _⟩

theorem WellFormed.call {first : Place} {call : Call} (h : WellFormed first r)
    (hcall : call.answer t r = .ok s) : WellFormed first s := by
  obtain ⟨hresolved, hroot, hbelow⟩ := answer_eq hcall
  have hnamed := resolve_named (isAbsolute_joinText (isAbsolute_text r.path) call.rel) hresolved
  exact wellFormed_of_named hnamed hbelow (h.root_below_first.trans hroot)

theorem refused_of_join {rel : String} {e : Error} (h : r.join t rel = .error e) :
    Refused t r rel e := by
  unfold RootedPath.join at h
  simp only at h
  split at h
  · next p hp =>
    split at h
    · cases h
    · next hout =>
      obtain rfl := Except.error.inj h
      exact .escape hp fun hpre => hout (List.isPrefixOf_iff_prefix.2 hpre)
  · next e' he =>
    obtain rfl := Except.error.inj h
    exact .unresolved he

theorem refused_of_answer {call : Call} {e : Error} (h : call.answer t r = .error e) :
    Refused t r call.rel e := by
  cases call with
  | join rel => exact refused_of_join h
  | reRoot rel =>
    have h : r.reRoot t rel = .error e := h
    unfold RootedPath.reRoot at h
    split at h
    · cases h
    · next e' he =>
      obtain rfl := Except.error.inj h
      exact refused_of_join he

/-! ## Runs of calls -/

theorem run_cons (call : Call) (calls : List Call) :
    run t r (call :: calls) = call.answer t r >>= fun s => run t s calls := List.foldlM_cons

theorem run_append (before after : List Call) :
    run t r (before ++ after) = run t r before >>= fun s => run t s after := List.foldlM_append

theorem WellFormed.run {first : Place} :
    ∀ (calls : List Call) {r : RootedPath}, WellFormed first r →
    run t r calls = .ok s → WellFormed first s
  | [], _, h, hrun => Except.ok.inj hrun ▸ h
  | call :: calls, _, h, hrun => by
    rw [run_cons] at hrun
    obtain ⟨m, hm, hrest⟩ := ok_of_bind hrun
    exact WellFormed.run calls (h.call hm) hrest

theorem run_append_error {before : List Call} {call : Call} {e : Error}
    (hbefore : run t r before = .ok s) (hcall : call.answer t s = .error e) (after : List Call) :
    run t r (before ++ call :: after) = .error e := by
  rw [run_append, hbefore]
  show run t s (call :: after) = _
  rw [run_cons, hcall]
  rfl

theorem refused_of_run {e : Error} :
    ∀ (calls : List Call) {r : RootedPath}, run t r calls = .error e →
    ∃ before call after s,
    calls = before ++ call :: after ∧ run t r before = .ok s ∧ call.answer t s = .error e
  | [], _, h => nomatch h
  | call :: calls, r, h => by
    rw [run_cons] at h
    cases hcall : call.answer t r with
    | error e' =>
      rw [hcall] at h
      obtain rfl := Except.error.inj h
      exact ⟨[], call, calls, r, rfl, rfl, hcall⟩
    | ok m =>
      rw [hcall] at h
      obtain ⟨before, last, after, s, rfl, hbefore, hlast⟩ := refused_of_run calls h
      refine ⟨call :: before, last, after, s, rfl, ?_, hlast⟩
      rw [run_cons, hcall]
      exact hbefore

theorem wellFormed_of_new (hworking : ∀ name ∈ t.workingDirectory, '/' ∉ name.toList)
    {path : String} (h : new t path = .ok r) : WellFormed r.root r := by
  obtain ⟨hresolved, hroot⟩ := new_eq h
  have hnamed : ∀ name ∈ r.path, IsName name :=
    resolve_keeps hworking step_named (by simp) hresolved
  exact wellFormed_of_named hnamed (hroot ▸ List.prefix_refl _) (List.prefix_refl _)

/-- From a root on, whatever is joined and made a root, every rooted path that is reached is well
formed and lies below that root. A run of calls that gives no path has come to a call that is
refused, with its reason, and whatever calls stand behind that one, the run ends with it. -/
theorem wellFormed_of_calls (t : Tree) (hworking : ∀ name ∈ t.workingDirectory, '/' ∉ name.toList)
    {path : String} {first : RootedPath} (hfirst : new t path = .ok first) (calls : List Call) :
    (∀ before r, before <+: calls → run t first before = .ok r → WellFormed first.root r) ∧
    ∀ e, run t first calls = .error e → ∃ before call after r, calls = before ++ call :: after ∧
      run t first before = .ok r ∧ call.answer t r = .error e ∧ Refused t r call.rel e ∧
      ∀ others, run t first (before ++ call :: others) = .error e := by
  refine ⟨fun before r _ hrun => (wellFormed_of_new hworking hfirst).run before hrun,
    fun e hrun => ?_⟩
  obtain ⟨before, call, after, r, hcalls, hbefore, hcall⟩ := refused_of_run calls hrun
  exact ⟨before, call, after, r, hcalls, hbefore, hcall, refused_of_answer hcall,
    run_append_error hbefore hcall⟩

/-! ## Calls through a link -/

theorem join_relative {rel : String} {p : Place} (h : resolve t r.text = .ok r.path)
    (hrel : isAbsolute rel = false) (hgo : (components rel).foldlM (step t) r.path = .ok p)
    (hroot : r.root <+: p) : r.join t rel = .ok ⟨r.root, p⟩ := by
  refine join_of_resolve ?_ hroot
  rw [← hgo]
  exact resolve_joinText (isAbsolute_text r.path) hrel h

theorem reRoot_of_join {rel : String} (h : r.join t rel = .ok s) :
    r.reRoot t rel = .ok ⟨s.path, s.path⟩ := by
  unfold RootedPath.reRoot
  rw [h]

theorem join_escape {rel : String} {p : Place} (hrel : isAbsolute rel = true)
    (h : resolve t rel = .ok p) (hout : ¬ r.root <+: p) :
    r.join t rel = .error (.pathEscape rel (Place.text r.root)) := by
  have hpre : ¬ r.root.isPrefixOf p = true := fun hpre => hout (List.isPrefixOf_iff_prefix.1 hpre)
  unfold RootedPath.join
  simp only [joinText_absolute hrel, h, if_neg hpre]

/-- Calls that go through a link to what is missing, make the directory above it a root, and go on
below that. -/
def narrowing : List Call := [.join "far/new", .reRoot "..", .join "a/./b"]

theorem new_aliases : new aliases "src" = .ok ⟨["src"], ["src"]⟩ := by
  have hparts : parts "src" = ["src"] := by decide
  have hresolve : resolve aliases "src" = .ok ["src"] := by
    rw [resolve, if_neg (by decide), hparts]
    exact plain_src.foldlM_step aliases_linked.sound ["src"]
  rw [new, hresolve]

theorem reRoot_up : (⟨["src"], ["src", "real", "new"]⟩ : RootedPath).reRoot aliases ".." =
    .ok ⟨["src", "real"], ["src", "real"]⟩ := by
  have hagain := resolve_again aliases_linked (join_eq join_far).1
  have hjoin : (⟨["src"], ["src", "real", "new"]⟩ : RootedPath).join aliases ".." =
      .ok ⟨["src"], ["src", "real"]⟩ :=
    join_relative hagain (by decide) (by decide) (by decide)
  exact reRoot_of_join hjoin

theorem join_down : (⟨["src", "real"], ["src", "real"]⟩ : RootedPath).join aliases "a/./b" =
    .ok ⟨["src", "real"], ["src", "real", "a", "b"]⟩ := by
  obtain ⟨m, hm, he⟩ := reRoot_eq reRoot_up
  have hpath : m.path = ["src", "real"] := by injection he with _ hpath; exact hpath.symm
  have hagain := resolve_again aliases_linked (join_eq hm).1
  rw [hpath] at hagain
  have hplain : aliases.Plain ["src", "real", "a", "b"] :=
    @Sound.plain_missing _ ["src", "real"] "a" aliases_linked.sound ["b"] rfl
      ⟨by decide, by simp⟩ rfl
  have hparts : components "a/./b" = ["a", "b"] := by decide
  refine join_relative hagain (by decide) ?_ (by decide)
  rw [hparts]
  exact hplain.foldlM_step aliases_linked.sound ["a", "b"]

theorem join_out : (⟨["src", "real"], ["src", "real", "a", "b"]⟩ : RootedPath).join aliases "/src" =
    .error (.pathEscape "/src" (Place.text ["src", "real"])) := by
  have hresolve : resolve aliases "/src" = .ok ["src"] :=
    plain_src.resolve_text aliases_linked.sound
  exact join_escape (by decide) hresolve (by decide)

theorem wellFormed_of_calls_narrowing :
    (∀ name ∈ aliases.workingDirectory, '/' ∉ name.toList) ∧
    new aliases "src" = .ok ⟨["src"], ["src"]⟩ ∧
    run aliases ⟨["src"], ["src"]⟩ narrowing = .ok ⟨["src", "real"], ["src", "real", "a", "b"]⟩ ∧
    WellFormed ["src"] ⟨["src", "real"], ["src", "real", "a", "b"]⟩ ∧
    run aliases ⟨["src"], ["src"]⟩ (narrowing ++ [.join "/src", .join "."]) =
      .error (.pathEscape "/src" (Place.text ["src", "real"])) ∧
    ∃ (r : RootedPath) (call : Call),
      call.answer aliases r = .error (.pathEscape "/src" (Place.text ["src", "real"])) ∧
      Refused aliases r call.rel (.pathEscape "/src" (Place.text ["src", "real"])) := by
  have hworking : ∀ name ∈ aliases.workingDirectory, '/' ∉ name.toList := by decide
  have hrun : run aliases ⟨["src"], ["src"]⟩ narrowing =
      .ok ⟨["src", "real"], ["src", "real", "a", "b"]⟩ := by
    rw [narrowing, run_cons, Call.answer, join_far]
    show run aliases ⟨["src"], ["src", "real", "new"]⟩ [.reRoot "..", .join "a/./b"] = _
    rw [run_cons, Call.answer, reRoot_up]
    show run aliases ⟨["src", "real"], ["src", "real"]⟩ [.join "a/./b"] = _
    rw [run_cons, Call.answer, join_down]
    rfl
  have hcall : (Call.join "/src").answer aliases ⟨["src", "real"], ["src", "real", "a", "b"]⟩ =
      .error (.pathEscape "/src" (Place.text ["src", "real"])) := join_out
  have hout := run_append_error hrun hcall [.join "."]
  obtain ⟨hsteps, hrefusals⟩ :=
    wellFormed_of_calls aliases hworking new_aliases (narrowing ++ [.join "/src", .join "."])
  obtain ⟨-, call, -, r, -, -, hcall, hrefused, -⟩ := hrefusals _ hout
  exact ⟨hworking, new_aliases, hrun, hsteps narrowing _ (List.prefix_append _ _) hrun, hout, r,
    call, hcall, hrefused⟩

end FetchPlan.RootedPath
