import FetchPlan.Proofs.MergedComponents
import FetchPlan.Proofs.PackageEntries

/-!
What becomes of the flag of an artifact without a checksum when components with one package URL
are made one. A package keeps the first of them (`mem_firstOfEach`), a report the least
(`isEntry_merge`); the flag is no part of the package URL, so it survives in the package exactly
when the first entry listed under that URL is itself of such an artifact, and in the report
exactly when some package has the flag there and none an entry without properties
(`missingHash_kept_iff`).

What is proved of every run that ends well: each package URL of an artifact without a checksum has
one entry in its package and one in the report, and exactly when each of them has the flag.
Assumed: pools give back their results in the order of the requests (`Threads.InOrder`).
`flag_lost_pinned` is a run in which the flag is lost.
-/
namespace FetchPlan

namespace Component

/-- Whether a component says that its artifact has no checksum. -/
def Flagged (c : Component) : Prop := ∃ file, ⟨missingHashProperty, file⟩ ∈ c.properties

/-- Whether a component is the only one of a list with a package URL. -/
structure IsEntry (purl : String) (cs : List Component) (c : Component) : Prop where
  mem : c ∈ cs
  purl_eq : c.purl = purl
  only : ∀ d ∈ cs, d.purl = purl → d = c

/-! ## The properties of a component -/

/-- The properties that the component of an artifact can have. -/
def flags (missing : Option String) (build : Bool) : List Property :=
  (missing.toList.map fun file => ⟨missingHashProperty, file⟩) ++
    if build then [⟨buildDependencyProperty, "true"⟩] else []

/-- Whether a component is made of a package URL and flags. -/
def IsMade (c : Component) : Prop :=
  ∃ p missing build, p.Readable ∧ c = { ofPurl p with properties := flags missing build }

theorem compare_build (file : String) :
    compare (⟨buildDependencyProperty, "true"⟩ : Property) ⟨missingHashProperty, file⟩ = .gt := by
  have hname : compare buildDependencyProperty missingHashProperty = .gt := by decide
  rw [compare_property, hname]
  rfl

theorem ofArtifact_flags (e : Ecosystem) (a : Artifact) (v : Option String) :
    ofArtifact e a v = { ofPurl (a.packageUrl e v) with
      properties := flags (if a.missingChecksum then some a.requirementFile else none)
        (decide (a.buildDependency = true ∧ e = .pip)) } := by
  have hinsert :
      insertProperty ⟨buildDependencyProperty, "true"⟩ [⟨missingHashProperty, a.requirementFile⟩] =
      [⟨missingHashProperty, a.requirementFile⟩, ⟨buildDependencyProperty, "true"⟩] := by
    simp only [insertProperty, compare_build]
  unfold ofArtifact
  by_cases hb : a.buildDependency = true ∧ e = .pip
  · cases a.missingChecksum
    · simp [flags, hb, withProperty, Artifact.packageUrl, ofPurl, insertProperty]
    · simp [flags, hb, withProperty, Artifact.packageUrl, ofPurl, insertProperty, hinsert]
  · cases a.missingChecksum <;>
      simp [flags, hb, withProperty, Artifact.packageUrl, ofPurl, insertProperty]

theorem flagged_flags {p : PackageUrl} {missing : Option String} {build : Bool} :
    Flagged { ofPurl p with properties := flags missing build } ↔ missing.isSome = true := by
  have hne : missingHashProperty ≠ buildDependencyProperty := by decide
  cases missing <;> cases build <;> simp [Flagged, flags, hne]

theorem flagged_ofArtifact {e : Ecosystem} {a : Artifact} {v : Option String} :
    (ofArtifact e a v).Flagged ↔ a.missingChecksum = true := by
  rw [ofArtifact_flags, flagged_flags]
  cases a.missingChecksum <;> simp

theorem isMade_ofArtifact (e : Ecosystem) (a : Artifact) (v : Option String) :
    (ofArtifact e a v).IsMade :=
  ⟨_, _, _, (built_packageUrl e a v).readable, ofArtifact_flags e a v⟩

theorem ofLocal_flags (e : Ecosystem) (name : String) (version : Option String)
    (checkout : Option Checkout) :
    ∃ p : PackageUrl, p.Readable ∧
      ofLocal e name version checkout = { ofPurl p with properties := flags none false } :=
  ⟨_, readable_localUrl e name version checkout, ofLocal_eq e name version checkout⟩

theorem flags_eq_nil_of_isLE {missing : Option String} {build : Bool}
    (h : (compare (flags missing build) []).isLE = true) : flags missing build = [] := by
  cases hf : flags missing build with
  | nil => rfl
  | cons q qs => rw [hf] at h; cases h

/-- Of two lists of properties that are not empty, the lesser one has the flag if the other one
has. -/
theorem isSome_of_isLE {missing missing' : Option String} {build build' : Bool}
    (h : (compare (flags missing build) (flags missing' build')).isLE = true)
    (hne : flags missing build ≠ []) (hsome : missing'.isSome = true) : missing.isSome = true := by
  obtain ⟨file, rfl⟩ := Option.isSome_iff_exists.1 hsome
  cases missing with
  | some _ => rfl
  | none =>
    cases build with
    | false => exact absurd rfl hne
    | true =>
      have hgt : compare (flags none true) (flags (some file) build') = .gt := by
        have hcons : compare (flags none true) (flags (some file) build') =
            (compare (⟨buildDependencyProperty, "true"⟩ : Property)
              ⟨missingHashProperty, file⟩).then
              (compare []
                (if build' then [(⟨buildDependencyProperty, "true"⟩ : Property)] else [])) :=
          List.compareLex_cons_cons
        rw [hcons, compare_build]
        rfl
      rw [hgt] at h
      cases h

/-! ## The first of each -/

theorem isEntry_firstOfEach {cs : List Component} {purl : String} {c : Component}
    (h : cs.find? (·.purl == purl) = some c) : IsEntry purl (firstOfEach cs) c := by
  have hc : c.purl = purl := by simpa using List.find?_some h
  refine ⟨mem_firstOfEach.2 (hc ▸ h), hc, fun d hd hpurl => ?_⟩
  have hfirst := mem_firstOfEach.1 hd
  rw [hpurl, h] at hfirst
  exact (Option.some.inj hfirst).symm

/-! ## The least of each -/

theorem isEntry_merge {cs : List Component} {purl : String} (h : ∃ d ∈ cs, d.purl = purl) :
    ∃ c ∈ cs, IsEntry purl (merge cs) c ∧ ∀ d ∈ cs, d.purl = purl → (order c d).isLE = true := by
  obtain ⟨d, hd, hpurl⟩ := h
  have hsorted := pairwise_sorted cs
  cases hfind : (sorted cs).find? (·.purl == purl) with
  | none =>
    have hnone := List.find?_eq_none.1 hfind d ((sorted_perm cs).mem_iff.2 hd)
    simp [hpurl] at hnone
  | some c =>
    have hc : c ∈ cs := (sorted_perm cs).mem_iff.1 (List.mem_of_find?_eq_some hfind)
    refine ⟨c, hc, isEntry_firstOfEach hfind, fun e he hpurl' => ?_⟩
    -- what stands before the first one of a sorted list has another package URL, what stands after
    -- it is not less
    obtain ⟨-, before, after, hlist, hbefore⟩ := List.find?_eq_some_iff_append.1 hfind
    have he : e ∈ sorted cs := (sorted_perm cs).mem_iff.2 he
    rw [hlist] at he hsorted
    rcases List.mem_append.1 he with he | he
    · have hother := hbefore e he
      simp [hpurl'] at hother
    · rcases List.mem_cons.1 he with rfl | he
      · have hself : order e e = .eq := Std.ReflCmp.compare_self
        rw [hself]
        rfl
      · exact List.rel_of_pairwise_cons (List.pairwise_append.1 hsorted).2.1 he

theorem order_of_purl_eq {c d : Component} (hc : c.IsMade) (hd : d.IsMade) (h : c.purl = d.purl) :
    order c d = compare c.properties d.properties := by
  obtain ⟨p, missing, build, hp, rfl⟩ := hc
  obtain ⟨q, missing', build', hq, rfl⟩ := hd
  obtain rfl : p = q := PackageUrl.eq_of_render_eq hp hq h
  have hself : compare p.render p.render = .eq ∧ compare p.name p.name = .eq ∧
      compare p.version p.version = .eq :=
    ⟨Std.ReflCmp.compare_self, Std.ReflCmp.compare_self, Std.ReflCmp.compare_self⟩
  rw [order_eq_then]
  simp only [ofPurl, hself, Ordering.eq_then]

/-- The least of some components with one package URL has the flag exactly when one of them has it
and none is without properties. -/
theorem flagged_of_least {cs : List Component} {c : Component} (hmade : ∀ d ∈ cs, d.IsMade)
    (hc : c ∈ cs) (hleast : ∀ d ∈ cs, d.purl = c.purl → (order c d).isLE = true) :
    c.Flagged ↔ (∃ d ∈ cs, d.purl = c.purl ∧ d.Flagged) ∧ ∀ d ∈ cs,
    d.purl = c.purl → d.properties ≠ [] := by
  have hcompare : ∀ d ∈ cs, d.purl = c.purl → (compare c.properties d.properties).isLE = true := by
    intro d hd hpurl
    rw [← order_of_purl_eq (hmade c hc) (hmade d hd) hpurl.symm]
    exact hleast d hd hpurl
  obtain ⟨p, missing, build, hp, hflags⟩ := hmade c hc
  have hproperties : c.properties = flags missing build := by rw [hflags]
  constructor
  · intro hflagged
    refine ⟨⟨c, hc, rfl, hflagged⟩, fun d hd hpurl hnil => ?_⟩
    have hle := hcompare d hd hpurl
    rw [hnil, hproperties] at hle
    obtain ⟨file, hfile⟩ := hflagged
    rw [hproperties, flags_eq_nil_of_isLE hle] at hfile
    cases hfile
  · rintro ⟨⟨d, hd, hpurl, hflagged⟩, hnonempty⟩
    obtain ⟨q, missing', build', -, hd'⟩ := hmade d hd
    have hle := hcompare d hd hpurl
    have hne := hnonempty c hc rfl
    rw [hd', flagged_flags] at hflagged
    rw [hproperties, hd'] at hle
    rw [hproperties] at hne
    rw [hflags, flagged_flags]
    exact isSome_of_isLE hle hne hflagged

end Component

/-! ## Packages and runs -/

/-- Whether the first entry with a package URL is an artifact without a checksum. -/
def Listed.FirstUnverified (purl : String) (es : List Listed) : Prop :=
  ∃ a c, es.find? (·.2.purl == purl) = some (some a, c) ∧ a.missingChecksum = true

theorem flagged_of_isOf {e : Ecosystem} {a : Artifact} {x : Listed} (h : Listed.IsOf e a x) :
    x.2.Flagged ↔ a.missingChecksum = true := by
  obtain ⟨v, rfl⟩ := h
  exact Component.flagged_ofArtifact

theorem isMade_listed {s : Surroundings} {request : PackageRequest} {es : List Listed}
    (h : listed s request = .ok es) : ∀ x ∈ es, x.2.IsMade := by
  intro x hx
  rcases listed_cases h x hx with ⟨name, version, checkout, rfl⟩ | ⟨a, v, rfl⟩
  · obtain ⟨p, hp, hflags⟩ := Component.ofLocal_flags request.ecosystem name version checkout
    exact ⟨p, none, false, hp, hflags⟩
  · exact Component.isMade_ofArtifact _ _ _

theorem isMade_components {s : Surroundings} {request : PackageRequest} {r : Resolution}
    (h : resolvePackage s request = .ok r) : ∀ d ∈ r.components, d.IsMade := by
  obtain ⟨es, hlisted, -, -, hcomponents⟩ := listed_of_resolvePackage h
  rw [hcomponents]
  intro d hd
  have hfirst := List.mem_of_find?_eq_some (Component.mem_firstOfEach.1 hd)
  obtain ⟨x, hx, rfl⟩ := List.mem_map.1 hfirst
  exact isMade_listed hlisted x hx

/-- The component that a package keeps for an entry that it lists. -/
theorem kept_of_listed {s : Surroundings} {request : PackageRequest} {es : List Listed}
    (h : listed s request = .ok es) {x : Listed} (hx : x ∈ es) :
    ∃ c, Component.IsEntry x.2.purl (Component.firstOfEach (es.map (·.2))) c ∧
      (c.Flagged ↔ Listed.FirstUnverified x.2.purl es) := by
  cases hfind : es.find? (·.2.purl == x.2.purl) with
  | none =>
    have hnone := List.find?_eq_none.1 hfind x hx
    simp at hnone
  | some y =>
    have hy := List.mem_of_find?_eq_some hfind
    refine ⟨y.2, Component.isEntry_firstOfEach ?_, ?_⟩
    · rw [List.find?_map, Function.comp_def, hfind]
      rfl
    · rcases listed_cases h y hy with ⟨name, version, checkout, rfl⟩ | ⟨a, hof⟩
      · obtain ⟨p, -, hflags⟩ := Component.ofLocal_flags request.ecosystem name version checkout
        rw [hflags, Component.flagged_flags]
        refine ⟨nofun, ?_⟩
        rintro ⟨a, c, hfirst, -⟩
        rw [hfind] at hfirst
        cases hfirst
      · rw [flagged_of_isOf hof]
        obtain ⟨v, rfl⟩ := hof
        refine ⟨fun ha => ⟨a, _, hfind, ha⟩, ?_⟩
        rintro ⟨b, c, hfirst, hb⟩
        rw [hfind] at hfirst
        cases hfirst
        exact hb

/-- Whether the least of the components that the packages of a run have under a package URL has the
flag. -/
def Outcome.LeastUnverified (o : Outcome) (purl : String) : Prop :=
  (∃ r ∈ o.resolutions, ∃ d ∈ r.components, d.purl = purl ∧ d.Flagged) ∧
    ∀ r ∈ o.resolutions, ∀ d ∈ r.components, d.purl = purl → d.properties ≠ []

/-- In a run, the package URL of each artifact without a checksum has one entry in its package and
one in the report. The entry of the package has the flag exactly when the first entry listed under
that URL is of an artifact without a checksum; the entry of the report, when a package has the flag
there and none an entry without properties. -/
theorem missingHash_kept_iff (t : Files.Tree) (threads : Threads) (hthreads : threads.InOrder)
    (lookup : String → Except Error Checkout) (input : RunInput) (o : Outcome)
    (h : run t threads lookup input = .ok o) :
    ∃ s, Surroundings.IsOf t lookup input o s ∧ ∀ r ∈ o.resolutions,
      ∃ request ∈ o.plan.packages, ∃ es,
      Resolution.IsOf s request es r ∧ ∀ a c, (some a, c) ∈ es → a.missingChecksum = true →
        (∃ e, Component.IsEntry c.purl r.components e ∧
          (e.Flagged ↔ Listed.FirstUnverified c.purl es)) ∧
        ∃ e, Component.IsEntry c.purl o.report.components e ∧
          (e.Flagged ↔ o.LeastUnverified c.purl) := by
  obtain ⟨s, pool, hs, hpool, ho⟩ := outcome_of_run h
  refine ⟨s, hs, fun r hr => ?_⟩
  have hresolutions : ∀ r ∈ o.resolutions,
      ∃ request ∈ o.plan.packages, resolvePackage s request = .ok r := by
    intro r hr
    rw [ho] at hr
    exact (mem_resolved (hthreads _ _ hpool)).1 hr
  have hreport :
      o.report.components = Component.merge (o.resolutions.flatMap Resolution.components) := by
    rw [ho]
    rfl
  obtain ⟨request, hrequest, hresolved⟩ := hresolutions r hr
  obtain ⟨es, hlisted, -, hartifacts, hcomponents⟩ := listed_of_resolvePackage hresolved
  refine ⟨request, hrequest, es, ⟨hresolved, hlisted, hartifacts⟩, fun a c hac ha => ?_⟩
  obtain ⟨e, hentry, hflag⟩ := kept_of_listed hlisted hac
  rw [← hcomponents] at hentry
  refine ⟨⟨e, hentry, hflag⟩, ?_⟩
  have hmade : ∀ d ∈ o.resolutions.flatMap Resolution.components, d.IsMade := by
    intro d hd
    obtain ⟨r', hr', hd⟩ := List.mem_flatMap.1 hd
    obtain ⟨request', -, hresolved'⟩ := hresolutions r' hr'
    exact isMade_components hresolved' d hd
  have hmem : e ∈ o.resolutions.flatMap Resolution.components :=
    List.mem_flatMap.2 ⟨r, hr, hentry.mem⟩
  obtain ⟨m, hm, hmerged, hleast⟩ := Component.isEntry_merge ⟨e, hmem, hentry.purl_eq⟩
  have hpurl : m.purl = c.purl := hmerged.purl_eq
  refine ⟨m, hreport ▸ hmerged, ?_⟩
  rw [Component.flagged_of_least hmade hm (hpurl ▸ hleast), hpurl]
  simp only [Outcome.LeastUnverified, List.mem_flatMap]
  constructor
  · rintro ⟨⟨d, ⟨r', hr', hd⟩, hflagged⟩, hnonempty⟩
    exact ⟨⟨r', hr', d, hd, hflagged⟩, fun r' hr' d hd => hnonempty d ⟨r', hr', hd⟩⟩
  · rintro ⟨⟨r', hr', d, hd, hflagged⟩, hnonempty⟩
    exact ⟨⟨d, ⟨r', hr', hd⟩, hflagged⟩, fun d ⟨r', hr', hd⟩ => hnonempty r' hr' d hd⟩

/-! ## A release with and without a hash -/

/-- A release with a hash, and another one without. -/
def pinnedFirst : String := "p==1 --hash=sha256:aa\nq==2\n"

def pinnedAgain : String := "p==1\n"

def pinnedArtifact (name version path what : String) (hash : Option String) (forBuild : Bool) :
    Artifact :=
  ⟨name, path, what, hash.isNone, forBuild,
    .release ⟨defaultPipIndex, .sourceArchive, version, hash⟩⟩

def pinnedHashed : Artifact :=
  pinnedArtifact "p" "1" "/out/deps/pip/p-1.tar.gz" "a.txt" (some "sha256:aa") false
def pinnedOther : Artifact := pinnedArtifact "q" "2" "/out/deps/pip/q-2.tar.gz" "a.txt" none false
def pinnedPlain : Artifact := pinnedArtifact "p" "1" "/out/deps/pip/p-1.tar.gz" "b.txt" none true

def keptComponent : Component := ⟨"p", some "1", "pkg:pypi/p@1", []⟩
def flaggedComponent : Component :=
  ⟨"q", some "2", "pkg:pypi/q@2", [⟨Component.missingHashProperty, "a.txt"⟩]⟩

def pinnedResolution : Resolution where
  ecosystem := .pip
  path := "."
  identity := ⟨"src", none⟩
  checkout := none
  artifacts := [pinnedHashed, pinnedOther, pinnedPlain]
  components := [⟨"src", none, "pkg:pypi/src", []⟩, keptComponent, flaggedComponent]
  sanitizedConfig := none

def pinnedOutcome : Outcome := listPlan.outcome .single (listSurroundings pinnedFirst pinnedAgain)

theorem resolvePackage_pinned :
    resolvePackage (listSurroundings pinnedFirst pinnedAgain) listRequest =
      .ok pinnedResolution := by
  let s : Surroundings := listSurroundings pinnedFirst pinnedAgain
  let first : Requirements := ⟨none, false,
    [⟨"p", [], none, ["sha256:aa"], .version "1"⟩, ⟨"q", [], none, [], .version "2"⟩]⟩
  let again : Requirements := ⟨none, false, [⟨"p", [], none, [], .version "1"⟩]⟩
  have hplace : listDeps.join s.tree (Pip.releaseArchive "p" "1") =
      .ok ⟨["out", "deps", "pip"], ["out", "deps", "pip", "p-1.tar.gz"]⟩ :=
    join_archive ⟨by decide, by simp⟩ rfl
  have hotherPlace : listDeps.join s.tree (Pip.releaseArchive "q" "2") =
      .ok ⟨["out", "deps", "pip"], ["out", "deps", "pip", "q-2.tar.gz"]⟩ :=
    join_archive ⟨by decide, by simp⟩ rfl
  have hhashed :
      Pip.checkedArtifact s listDeps first "a.txt" false
        ⟨"p", [], none, ["sha256:aa"], .version "1"⟩ = _ :=
    checkedArtifact_version hplace nofun
  have hother :
      Pip.checkedArtifact s listDeps first "a.txt" false ⟨"q", [], none, [], .version "2"⟩ = _ :=
    checkedArtifact_version hotherPlace nofun
  have hplain :
      Pip.checkedArtifact s listDeps again "b.txt" true ⟨"p", [], none, [], .version "1"⟩ = _ :=
    checkedArtifact_version hplace nofun
  have hfirst : first.requirements.mapM (Pip.checkedArtifact s listDeps first "a.txt" false) =
      .ok [pinnedHashed, pinnedOther] := by
    rw [List.mapM_cons, hhashed, List.mapM_cons, hother]
    rfl
  have hagain : again.requirements.mapM (Pip.checkedArtifact s listDeps again "b.txt" true) =
      .ok [pinnedPlain] := by
    rw [List.mapM_cons, hplain]
    rfl
  have hcomponents : Component.firstOfEach (Component.ofLocal .pip "src" none none ::
      ([pinnedHashed, pinnedOther] ++ [pinnedPlain]).map fun a =>
        Component.ofArtifact .pip a none) =
      pinnedResolution.components := by
    decide +kernel
  rw [resolvePackage_list (by rfl) (by rfl) hfirst hagain, hcomponents]
  rfl

theorem run_pinned : run (listSurroundings pinnedFirst pinnedAgain).tree .single
    (listSurroundings pinnedFirst pinnedAgain).lookup listInput = .ok pinnedOutcome := run_list

theorem resolutions_pinned : pinnedOutcome.resolutions = [pinnedResolution] :=
  resolutions_list resolvePackage_pinned

/-- The other release keeps its flag in the report. -/
theorem missingHash_kept_pinned :
    run (listSurroundings pinnedFirst pinnedAgain).tree .single
      (listSurroundings pinnedFirst pinnedAgain).lookup
      listInput = .ok pinnedOutcome ∧
    pinnedOther ∈ pinnedResolution.artifacts ∧ pinnedOther.missingChecksum = true ∧
    ∃ e, Component.IsEntry "pkg:pypi/q@2" pinnedOutcome.report.components e ∧ e.Flagged := by
  have hmem : pinnedOther ∈ pinnedResolution.artifacts := by decide
  refine ⟨run_pinned, hmem, rfl, ?_⟩
  obtain ⟨s, -, hall⟩ := missingHash_kept_iff _ _ Threads.single_inOrder _ _ _ run_pinned
  obtain ⟨request, hrequest, es, hr, hflag⟩ := hall pinnedResolution (by simp [resolutions_pinned])
  obtain rfl : request = listRequest := List.mem_singleton.1 hrequest
  rw [hr.artifacts] at hmem
  obtain ⟨x, hx, hartifact⟩ := List.mem_filterMap.1 hmem
  rcases listed_cases hr.listed x hx with ⟨_, _, _, rfl⟩ | ⟨a, v, rfl⟩
  · cases hartifact
  obtain rfl : a = pinnedOther := Option.some.inj hartifact
  have hpurl :
      (Component.ofArtifact listRequest.ecosystem pinnedOther v).purl = "pkg:pypi/q@2" := by
    rw [Component.ofArtifact_purl]
    show (pinnedOther.packageUrl .pip none).render = _
    decide +kernel
  obtain ⟨-, e, hentry, he⟩ := hflag _ _ hx rfl
  rw [hpurl] at hentry he
  refine ⟨e, hentry, he.2 ⟨⟨pinnedResolution, by simp [resolutions_pinned], flaggedComponent,
    by decide, rfl, "a.txt", by decide⟩, ?_⟩⟩
  simp only [resolutions_pinned, List.forall_mem_singleton]
  decide

/-- The first release loses its flag, in the package and in the report: it has a hash in the first
file. -/
theorem flag_lost_pinned : ∃ r a e m,
    run (listSurroundings pinnedFirst pinnedAgain).tree .single
      (listSurroundings pinnedFirst pinnedAgain).lookup
      listInput = .ok pinnedOutcome ∧
    r ∈ pinnedOutcome.resolutions ∧ a ∈ r.artifacts ∧ a.missingChecksum = true ∧
    Component.IsEntry (Component.ofArtifact r.ecosystem a none).purl r.components e ∧ ¬ e.Flagged ∧
    Component.IsEntry (Component.ofArtifact r.ecosystem a none).purl
      pinnedOutcome.report.components m ∧
      ¬ m.Flagged := by
  have hpurl :
      (Component.ofArtifact pinnedResolution.ecosystem pinnedPlain none).purl = "pkg:pypi/p@1" := by
    decide +kernel
  have hplain : ¬ keptComponent.Flagged := by simp [keptComponent, Component.Flagged]
  have hentry : Component.IsEntry "pkg:pypi/p@1" pinnedResolution.components keptComponent :=
    ⟨by decide, rfl, by decide⟩
  have hreport : pinnedOutcome.report.components = Component.merge pinnedResolution.components := by
    have h : pinnedOutcome.report.components =
        Component.merge (pinnedOutcome.resolutions.flatMap Resolution.components) := rfl
    rw [h, resolutions_pinned]
    rfl
  obtain ⟨m, hm, hmerged, -⟩ := Component.isEntry_merge ⟨keptComponent, hentry.mem, hentry.purl_eq⟩
  rw [hentry.only m hm hmerged.purl_eq] at hmerged
  refine ⟨pinnedResolution, pinnedPlain, keptComponent, keptComponent, run_pinned,
    by simp [resolutions_pinned], by decide, rfl, ?_, hplain, ?_, hplain⟩
  · rw [hpurl]
    exact hentry
  · rw [hpurl, hreport]
    exact hmerged

end FetchPlan
