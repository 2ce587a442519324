import FetchPlan.Proofs.DependencyAccounts
import FetchPlan.Proofs.PackageIndependence
import FetchPlan.Proofs.ResolvedPlaces

/-!
Where artifacts go. Each dependency names a destination below the directory of its ecosystem, and
its artifact goes to the place that this destination is resolved to. A destination that leads out
of the directory is not cut short or passed over: its package is refused. So every artifact of a
run goes below the output directory, under a path without points, and the path that the report
shows leads to it from there (`destinations_below_output`).

What is proved of a run that ends well: each artifact is delivered below the output directory and
shown with its way from there; the artifacts of a package are placed where its dependencies name;
and a dependency that strays is reported as a failure of its package. Assumed: pools give back
their results in the order of the requests (`Threads.InOrder`).
-/
namespace FetchPlan

open Files

/-- Whether two absolute paths are the same, component by component. -/
structure SamePath (a b : String) : Prop where
  absolute : isAbsolute a = true ∧ isAbsolute b = true
  components : components a = components b

/-- Whether an artifact goes where a path leads from a root, at the root or below it. -/
def Artifact.GoesTo (t : Tree) (deps : RootedPath) (destination : String) (a : Artifact) : Prop :=
  ∃ p, RootedPath.GoesTo t deps destination p ∧ a.path = Place.text p

/-- Whether an artifact goes below the output directory, and a summary shows the way to it from
there. -/
structure Artifact.Delivered (out : String) (a : Artifact) (shown : ArtifactSummary) : Prop where
  absolute : isAbsolute a.path = true
  noPoints : ∀ part ∈ parts a.path, part ≠ "." ∧ part ≠ ".."
  below : components out <+: components a.path
  relative : isAbsolute shown.path = false
  back : SamePath (joinText out shown.path) a.path

/-! ## Paths below the output directory -/

theorem pathFrom_text {out p : Place} (hp : ∀ name ∈ p, IsName name) (h : out <+: p) :
    pathFrom out (Place.text p) = "/".intercalate (p.drop out.length) := by
  unfold pathFrom
  rw [placePlainly_text hp]
  exact if_pos (List.isPrefixOf_iff_prefix.2 h)

theorem delivered_of_text {out p : Place} {a : Artifact} (hp : ∀ name ∈ p, IsName name)
    (h : out <+: p) (ha : a.path = Place.text p) :
    a.Delivered (Place.text out) (ArtifactSummary.ofArtifact out a) := by
  obtain ⟨rest, rfl⟩ := h
  have hout : ∀ name ∈ out, IsName name := fun name hn => hp name (List.mem_append_left _ hn)
  have hrest : ∀ name ∈ rest, IsName name := fun name hn => hp name (List.mem_append_right _ hn)
  have hshown : (ArtifactSummary.ofArtifact out a).path = "/".intercalate rest := by
    show pathFrom out a.path = _
    rw [ha, pathFrom_text hp (List.prefix_append _ _), List.drop_left]
  have hrelative : isAbsolute ("/".intercalate rest) = false := isAbsolute_intercalate hrest
  have habsolute : isAbsolute (joinText (Place.text out) ("/".intercalate rest)) = true :=
    isAbsolute_joinText (isAbsolute_text out) _
  refine ⟨?_, ?_, ?_, ?_, ?_⟩
  · rw [ha]
    exact isAbsolute_text _
  · rw [ha]
    exact parts_text_ne hp
  · rw [ha, components_text_names hp, components_text_names hout]
    exact List.prefix_append _ _
  · rw [hshown]
    exact hrelative
  · rw [hshown, ha]
    refine ⟨⟨habsolute, isAbsolute_text _⟩, ?_⟩
    rw [components_joinText hrelative, components_text_names hout,
      components_intercalate_names hrest, components_text_names hp]

/-- What goes below a directory of the output directory is delivered. -/
theorem Artifact.GoesTo.delivered {t : Tree} {output deps : RootedPath}
    {depsDir destination : String} {a : Artifact} (hroot : output.root = output.path)
    (hdeps : output.reRoot t depsDir = .ok deps) (h : a.GoesTo t deps destination) :
    a.Delivered output.text (ArtifactSummary.ofArtifact output.path a) := by
  obtain ⟨p, hp, ha⟩ := h
  have hbelow : output.path <+: deps.path := hroot ▸ RootedPath.reRoot_isPrefix hdeps
  exact delivered_of_text hp.named (hbelow.trans hp.below) ha

/-! ## Cargo -/

/-- Where the artifact of a locked crate goes, below the directory of crates. -/
def LockedCrate.destination (c : LockedCrate) : String := c.name ++ "-" ++ c.version

namespace Cargo

/-- Whether the artifacts of a resolution are those of the locked crates, each where its crate
names. -/
def Placed (s : Surroundings) (directory : RootedPath) (r : Resolution) : Prop :=
  ∃ lockPath crates deps, Reads s directory r.identity lockPath crates ∧
    s.outputDir.reRoot s.tree depsDir = .ok deps ∧
    List.Forall₂ (fun c a => c.Gives lockPath.subpath a ∧ a.GoesTo s.tree deps c.destination)
      (crates.filter LockedCrate.isFetched) r.artifacts

/-- Whether a locked crate that has to be fetched names a place outside of the directory of crates.
-/
def Strays (s : Surroundings) (directory : RootedPath) : Prop :=
  ∃ lockPath text crates c deps, directory.join s.tree Lockfile.fileName = .ok lockPath ∧
    s.readText lockPath = .ok text ∧ Lockfile.parse text = .ok crates ∧ c ∈ crates ∧
    c.isFetched = true ∧
    s.outputDir.reRoot s.tree depsDir = .ok deps ∧ RootedPath.Strays s.tree deps c.destination

variable {s : Surroundings} {directory deps : RootedPath} {lockFile : String}
    {checkout : Option Checkout}

theorem goesTo_of_entryOf {c : LockedCrate} {a : Artifact} {component : Component}
    (hroot : deps.root = deps.path)
    (h : entryOf s deps lockFile checkout c = .ok (some a, component)) :
    a.GoesTo s.tree deps c.destination := by
  obtain ⟨origin, -, h⟩ := ok_of_bind h
  cases origin with
  | none => cases Except.ok.inj h
  | some origin =>
    obtain ⟨place, hplace, h⟩ := ok_of_bind h
    cases Except.ok.inj h
    exact ⟨place.path, RootedPath.goesTo_of_join hroot hplace, rfl⟩

theorem placed_of_resolve {r : Resolution} (h : resolve s directory = .ok r) :
    Placed s directory r := by
  obtain ⟨lockPath, deps, crates, entries, h⟩ := resolves_of_resolve h
  refine ⟨lockPath, crates, deps, h.reads, h.placed, ?_⟩
  rw [h.artifacts]
  exact (artifacts_of_entries (mapM_eq_ok_iff.1 h.taken)).imp fun c a ⟨_, ha⟩ =>
    ⟨gives_of_entryOf ha, goesTo_of_entryOf (RootedPath.reRoot_root h.placed) ha⟩

theorem refusesEntry_of_strays (h : Strays s directory) : RefusesEntry s directory := by
  obtain ⟨lockPath, text, crates, c, deps, hlock, hread, hparse, hc, hfetched, hdeps, hstrays⟩ := h
  obtain ⟨e, he⟩ : ∃ e, entryOf s deps lockPath.subpath none c = .error e := by
    refine error_of_not_ok fun x hx => ?_
    rcases entryOf_cases hx with ⟨hhere, -⟩ | ⟨a, -, rfl⟩
    · rw [isFetched_of_here hhere] at hfetched
      cases hfetched
    · obtain ⟨p, hp, -⟩ := goesTo_of_entryOf (RootedPath.reRoot_root hdeps) hx
      exact hp.not_strays hstrays
  exact .crate hlock hread hparse hc hdeps he

end Cargo

/-! ## Pip -/

namespace Pip

/-- Whether the artifact of a requirement goes to a destination, below the directory of downloads.
-/
def Asked.Destined (q : Asked) (destination : String) : Prop :=
  ∃ origin hasHash, planOf (q.file.indexUrl.getD defaultPipIndex) q.what q.requirement =
    .ok (destination, origin, hasHash)

/-- Whether the artifacts of a resolution are those of the requirements, each where its requirement
names. -/
def Placed (s : Surroundings) (directory : RootedPath) (request : PackageRequest) (r : Resolution) :
    Prop :=
  ∃ asked deps, List.Forall₂ (Asks s directory) (fileNames request) asked ∧
    s.outputDir.reRoot s.tree depsDir = .ok deps ∧
    List.Forall₂
      (fun q a => q.Gives a ∧ ∃ destination,
        q.Destined destination ∧ a.GoesTo s.tree deps destination)
      asked.flatten r.artifacts

/-- Whether a requirement names a place outside of the directory of downloads. -/
def Strays (s : Surroundings) (directory : RootedPath) (request : PackageRequest) : Prop :=
  ∃ n asked q destination deps, n ∈ fileNames request ∧ Asks s directory n asked ∧ q ∈ asked ∧
    q.Destined destination ∧ s.outputDir.reRoot s.tree depsDir = .ok deps ∧
    RootedPath.Strays s.tree deps destination

variable {s : Surroundings} {directory deps : RootedPath} {request : PackageRequest}

theorem Asked.Takes.goesTo {q : Asked} {a : Artifact} (hroot : deps.root = deps.path)
    (h : q.Takes s deps a) :
    ∃ destination, q.Destined destination ∧ a.GoesTo s.tree deps destination := by
  obtain ⟨b, hartifact, h⟩ := ok_of_bind h
  obtain ⟨⟨destination, origin, hasHash⟩, hplan, hartifact⟩ := ok_of_bind hartifact
  obtain ⟨place, hplace, hartifact⟩ := ok_of_bind hartifact
  obtain rfl := Except.ok.inj hartifact
  split at h
  · cases h
  obtain rfl := Except.ok.inj h
  exact ⟨destination, ⟨origin, hasHash, hplan⟩, place.path,
    RootedPath.goesTo_of_join hroot hplace, rfl⟩

theorem placed_of_resolve {r : Resolution} (h : resolve s directory request = .ok r) :
    Placed s directory request r := by
  obtain ⟨deps, files, artifacts, h⟩ := resolves_of_resolve h
  obtain ⟨asked, hasks, htakes⟩ :=
    asks_of_listed (isListing_of_listings h.named) (mapM_eq_ok_iff.1 h.taken)
  refine ⟨asked, deps, hasks, h.placed, ?_⟩
  rw [h.artifacts]
  exact htakes.imp fun q a ha => ⟨ha.gives, ha.goesTo (RootedPath.reRoot_root h.placed)⟩

theorem refusesEntry_of_strays (h : Strays s directory request) :
    RefusesEntry s directory request := by
  obtain ⟨n, asked, q, destination, deps, hn, hasks, hq, ⟨origin, hasHash, hplan⟩,
    hdeps, hstrays⟩ := h
  obtain ⟨e, he⟩ : ∃ e,
      checkedArtifact s deps q.file q.what q.forBuild q.requirement = .error e := by
    refine error_of_not_ok fun a ha => ?_
    obtain ⟨_, ⟨_, _, hplan'⟩, p, hp, -⟩ := Asked.Takes.goesTo (RootedPath.reRoot_root hdeps) ha
    obtain ⟨rfl, -⟩ := Prod.mk.inj (Except.ok.inj (hplan.symm.trans hplan'))
    exact hp.not_strays hstrays
  cases hasks with
  | missing _ _ _ => cases hq
  | file hpath hread hparse =>
    obtain ⟨r, hr, rfl⟩ := List.mem_map.1 hq
    exact .requirement hn hpath hread hparse hr hdeps he

end Pip

/-! ## Any package -/

/-- Whether the artifacts of a requested package are those of its dependencies, each where its
dependency names. -/
def Placed (s : Surroundings) (request : PackageRequest) (r : Resolution) : Prop :=
  ∃ directory, s.sourceDir.join s.tree request.path = .ok directory ∧
    match request.ecosystem with
    | .cargo => Cargo.Placed s directory r
    | .pip => Pip.Placed s directory request r

/-- Whether a dependency of a requested package names a place outside of the directory of its
ecosystem. -/
def Strays (s : Surroundings) (request : PackageRequest) : Prop :=
  ∃ directory, s.sourceDir.join s.tree request.path = .ok directory ∧
    match request.ecosystem with
    | .cargo => Cargo.Strays s directory
    | .pip => Pip.Strays s directory request

variable {s : Surroundings} {request : PackageRequest} {r : Resolution}

theorem placed_of_resolvePackage (h : resolvePackage s request = .ok r) : Placed s request r := by
  obtain ⟨directory, hdirectory, -⟩ := ok_of_bind h
  refine ⟨directory, hdirectory, ?_⟩
  cases he : request.ecosystem with
  | cargo =>
    rw [resolvePackage_cargo hdirectory he] at h
    exact Cargo.placed_of_resolve h
  | pip =>
    rw [resolvePackage_pip hdirectory he] at h
    exact Pip.placed_of_resolve h

theorem delivered_of_placed (hroot : s.outputDir.root = s.outputDir.path) (h : Placed s request r) :
    ∀ a ∈ r.artifacts,
    a.Delivered s.outputDir.text (ArtifactSummary.ofArtifact s.outputDir.path a) := by
  obtain ⟨directory, -, h⟩ := h
  intro a ha
  cases he : request.ecosystem with
  | cargo =>
    rw [he] at h
    obtain ⟨lockPath, crates, deps, -, hdeps, hgoes⟩ := h
    obtain ⟨c, -, -, hc⟩ := exists_of_mem_forall₂ hgoes.flip ha
    exact Artifact.GoesTo.delivered hroot hdeps hc
  | pip =>
    rw [he] at h
    obtain ⟨asked, deps, -, hdeps, hgoes⟩ := h
    obtain ⟨q, -, -, destination, -, hq⟩ := exists_of_mem_forall₂ hgoes.flip ha
    exact Artifact.GoesTo.delivered hroot hdeps hq

theorem shown_of_placed (hroot : s.outputDir.root = s.outputDir.path) (h : Placed s request r) :
    List.Forall₂ (Artifact.Delivered s.outputDir.text) r.artifacts
      (PackageReport.ofResolution s.outputDir.path r).artifacts := by
  show List.Forall₂ _ r.artifacts (r.artifacts.map (ArtifactSummary.ofArtifact s.outputDir.path))
  rw [List.forall₂_map_right_iff, List.forall₂_same]
  exact delivered_of_placed hroot h

theorem error_of_strays (h : Strays s request) : ∃ e, resolvePackage s request = .error e := by
  obtain ⟨directory, hdirectory, h⟩ := h
  cases he : request.ecosystem with
  | cargo =>
    rw [he] at h
    rw [resolvePackage_cargo hdirectory he]
    exact Cargo.error_of_refusesEntry (Cargo.refusesEntry_of_strays h)
  | pip =>
    rw [he] at h
    rw [resolvePackage_pip hdirectory he]
    exact Pip.error_of_refusesEntry (Pip.refusesEntry_of_strays h)

/-! ## Runs -/

/-- Every artifact of a run goes below the output directory, to the place that the destination of
its dependency is resolved to, and the path that the report shows for it leads to it from there. A
dependency whose destination is resolved to a place outside of the directory of its ecosystem makes
its package fail. -/
theorem destinations_below_output (t : Tree) (threads : Threads) (hthreads : threads.InOrder)
    (lookup : String → Except Error Checkout) (input : RunInput) (o : Outcome)
    (h : run t threads lookup input = .ok o) :
    ∃ s, Surroundings.IsOf t lookup input o s ∧
      List.Forall₂
        (fun r shown =>
          List.Forall₂ (Artifact.Delivered s.outputDir.text) r.artifacts shown.artifacts)
        o.resolutions o.report.packages ∧
      ∀ request ∈ o.plan.packages, (∀ r, resolvePackage s request = .ok r → Placed s request r) ∧
        (Strays s request → ∃ e, resolvePackage s request = .error e ∧
          PackageFailure.ofError request e ∈ o.report.failures) := by
  obtain ⟨s, pool, hs, hpool, ho⟩ := outcome_of_run h
  have hinOrder : pool.InOrder := hthreads _ _ hpool
  have hroot : s.outputDir.root = s.outputDir.path := (RootedPath.new_eq hs.output).2
  refine ⟨s, hs, ?_, fun request hrequest => ⟨fun r => placed_of_resolvePackage, fun hstrays => ?_⟩⟩
  · rw [ho]
    show List.Forall₂ _ (resolved (resolveAll pool s o.plan.packages))
      ((resolved (resolveAll pool s o.plan.packages)).map
        (PackageReport.ofResolution s.outputDir.path))
    rw [List.forall₂_map_right_iff, List.forall₂_same]
    intro r hr
    obtain ⟨request, -, hr⟩ := (mem_resolved hinOrder).1 hr
    exact shown_of_placed hroot (placed_of_resolvePackage hr)
  · obtain ⟨e, he⟩ := error_of_strays hstrays
    refine ⟨e, he, ?_⟩
    rw [ho]
    exact mem_failed hinOrder hrequest he

/-! ## A package that stays below the output directory, and one that does not -/

theorem Surroundings.IsOf.unique {t : Tree} {lookup : String → Except Error Checkout}
    {input : RunInput} {o : Outcome} {u v : Surroundings} (hu : IsOf t lookup input o u)
    (hv : IsOf t lookup input o v) : u = v := by
  cases u
  cases v
  simp only [Surroundings.mk.injEq]
  exact ⟨hu.tree.trans hv.tree.symm, Except.ok.inj (hu.source.symm.trans hv.source),
    Except.ok.inj (hu.output.symm.trans hv.output), hu.mode.trans hv.mode.symm,
    hu.lookup.trans hv.lookup.symm⟩

def strayLock : String := Lockfile.lockText [⟨"../rand", "2", some "registry+https://i", none⟩]

section Stray

variable {mode : Mode} {lookup : String → Except Error Checkout}

theorem isOf_crate {manifest lock : String} {maxParallel : Nat} {requests : List PackageRequest} :
    Surroundings.IsOf (Cargo.crateSurroundings manifest lock .permissive lookup).tree lookup
      (packagesInput maxParallel requests)
      ((⟨.permissive, maxParallel, requests⟩ : Plan).outcome .single
        (Cargo.crateSurroundings manifest lock .permissive lookup))
      (Cargo.crateSurroundings manifest lock .permissive lookup) :=
  ⟨rfl, rfl, rfl, Tree.new_source Cargo.crate_sound, Tree.new_output Cargo.crate_sound⟩

theorem strays_stray : Strays (Cargo.crateSurroundings kindsManifest strayLock mode lookup)
    (PackageRequest.simple .cargo ".") := by
  have hdeps : Tree.Plain (Cargo.crateSurroundings kindsManifest strayLock mode lookup).tree
      (["out", "deps"] ++ ["cargo"]) := Tree.plain_output ⟨by decide, by simp⟩
  have hrand : Tree.Plain (Cargo.crateSurroundings kindsManifest strayLock mode lookup).tree
      (["out", "deps"] ++ ["rand-2"]) := Tree.plain_output ⟨by decide, by simp⟩
  have hresolve := Tree.Plain.resolve_back Cargo.crate_sound hdeps hrand
  have htext : joinText Cargo.crateDeps.text "../rand-2" =
      Place.text (["out", "deps"] ++ "cargo" :: ".." :: ["rand-2"]) := rfl
  have hstrays :
      RootedPath.Strays
        (Cargo.crateSurroundings kindsManifest strayLock mode lookup).tree Cargo.crateDeps
      "../rand-2" := ⟨_, htext ▸ hresolve, by decide⟩
  exact ⟨⟨["src"], ["src"]⟩, Tree.join_point Cargo.crate_sound, ⟨["src"], ["src", "Cargo.lock"]⟩,
    strayLock, _, _, Cargo.crateDeps, Cargo.join_lock, Cargo.readText_lock,
    Lockfile.parse_lockText _, List.mem_cons_self, rfl, Cargo.reRoot_crateDeps, hstrays⟩

end Stray

/-- The artifacts of the package with a crate of each kind are delivered; with a crate that is
named after a place beside the directory of crates the package fails. -/
theorem destinations_below_output_kinds :
    let outside (place : String) : Except Error Checkout := .error (.notAGitRepo place)
    let request := PackageRequest.simple .cargo "."
    let kinds := Cargo.crateSurroundings kindsManifest kindsLock .permissive outside
    let stray := Cargo.crateSurroundings kindsManifest strayLock .permissive outside
    (∃ o shown, run kinds.tree .single outside (packagesInput 0 [request]) = .ok o ∧
      o.report.packages = [shown] ∧
      List.Forall₂ (Artifact.Delivered "/out") [kindsRelease, kindsClone] shown.artifacts) ∧
    ∃ o e, run stray.tree .single outside (packagesInput 0 [request]) = .ok o ∧
      PackageFailure.ofError request e ∈ o.report.failures := by
  intro outside request kinds stray
  let plan : Plan := ⟨.permissive, 0, [request]⟩
  have hkinds : run kinds.tree .single outside (packagesInput 0 [request]) =
      .ok (plan.outcome .single kinds) :=
    run_of_asks (Tree.new_source Cargo.crate_sound) (Tree.new_output Cargo.crate_sound)
      (asks_packages 0 request []) rfl
  have hstray : run stray.tree .single outside (packagesInput 0 [request]) =
      .ok (plan.outcome .single stray) :=
    run_of_asks (Tree.new_source Cargo.crate_sound) (Tree.new_output Cargo.crate_sound)
      (asks_packages 0 request []) rfl
  constructor
  · obtain ⟨s, hs, hdelivered, -⟩ :=
      destinations_below_output _ _ Threads.single_inOrder _ _ _ hkinds
    obtain rfl : s = kinds := hs.unique isOf_crate
    have hkindsResolved : resolvePackage kinds request = .ok (kindsResolution none) :=
      resolvePackage_kinds rfl
    have hresolutions : (plan.outcome .single kinds).resolutions = [kindsResolution none] := by
      simp [plan, Plan.outcome, resolved, ThreadPool.single_inOrder.resolveAll_eq, hkindsResolved,
        Except.toOption]
    rw [hresolutions] at hdelivered
    obtain ⟨shown, rest, hshown, hrest, hpackages⟩ := List.forall₂_cons_left_iff.1 hdelivered
    obtain rfl := List.forall₂_nil_left_iff.1 hrest
    exact ⟨_, shown, hkinds, hpackages, hshown⟩
  · obtain ⟨s, hs, -, hrequests⟩ :=
      destinations_below_output _ _ Threads.single_inOrder _ _ _ hstray
    obtain rfl : s = stray := hs.unique isOf_crate
    obtain ⟨e, -, hfailure⟩ := (hrequests request List.mem_cons_self).2 strays_stray
    exact ⟨_, e, hstray, hfailure⟩

end FetchPlan
