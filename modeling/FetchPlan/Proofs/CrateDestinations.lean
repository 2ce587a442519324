import FetchPlan.Proofs.Destinations
import FetchPlan.Proofs.RequirementParts

/-!
Which locked crates go to the same place. The destination of a crate is its name and its version
with a dash between them; where it comes from takes no part. Two crates share a path exactly when
their destinations are resolved to the same place (`crate_path_eq_iff`). Where no link is in the
way, destinations of one name are resolved to the same place only if they are equal, and those of
crates with usual names and versions are equal only for one name and one version. All of this is
needed: crates that differ in their source, in where the dash stands or in how a place is written
share a path (`crates_share_path`).

Assumed is only that the package is resolved. The equality of two paths is told by the places that
their destinations are resolved to; where both destinations are one name and no link stands there,
by the destinations; and for usual names and versions, by name and version.
-/
namespace FetchPlan

open Files Files.Tree

namespace LockedCrate

/-- Whether the destination of a crate is one name, with no link at its place or on the way to it.
-/
structure IsDirect (t : Tree) (deps : RootedPath) (c : LockedCrate) : Prop where
  noSlash : '/' ∉ c.destination.toList
  linkFree : t.LinkFree (deps.path ++ [c.destination])

/-- Whether a crate has a name without points, and a version without a dash before its first point:
names of crates have no points, and semantic versions begin with a number. -/
structure IsUsual (c : LockedCrate) : Prop where
  name : '.' ∉ c.name.toList
  version : ∃ major rest, Text.cut (· == '.') c.version.toList = some (major, rest) ∧ '-' ∉ major

theorem destination_toList (c : LockedCrate) :
    c.destination.toList = c.name.toList ++ '-' :: c.version.toList := by
  simp [destination]

theorem isName_destination {c : LockedCrate} (h : '/' ∉ c.destination.toList) :
    IsName c.destination := by
  have hdash : '-' ∈ c.destination.toList := by simp [destination_toList]
  exact isName_of_dash hdash h

/-- The name and the version of a usual crate are parted by the last dash before the first point. -/
theorem IsUsual.parted {c : LockedCrate} (h : c.IsUsual) : ∃ front major rest,
    Text.cut (· == '.') c.destination.toList = some (front, rest) ∧
    Requirements.cutLast (· == '-') front = some (c.name.toList, major) ∧
    c.version.toList = major ++ '.' :: rest := by
  obtain ⟨major, rest, hversion, hdash⟩ := h.version
  obtain ⟨hmajor, hsplit⟩ := Text.cut_beq_eq_some.1 hversion
  have hlist : c.destination.toList = (c.name.toList ++ '-' :: major) ++ '.' :: rest := by
    simp [destination_toList, hsplit]
  have hfront : '.' ∉ c.name.toList ++ '-' :: major := by simp [h.name, hmajor]
  refine ⟨c.name.toList ++ '-' :: major, major, rest, ?_, ?_, hsplit⟩
  · rw [hlist]
    exact Text.cut_beq_eq_some.2 ⟨hfront, rfl⟩
  · exact Requirements.cutLast_append rfl _ (Text.beq_false_of_not_mem hdash)

theorem destination_inj {c d : LockedCrate} (hc : c.IsUsual) (hd : d.IsUsual) :
    c.destination = d.destination ↔ c.name = d.name ∧ c.version = d.version := by
  constructor
  · intro h
    obtain ⟨front, major, rest, hfirst, hlast, hversion⟩ := hc.parted
    obtain ⟨front', major', rest', hfirst', hlast', hversion'⟩ := hd.parted
    rw [h, hfirst'] at hfirst
    obtain ⟨rfl, rfl⟩ := Prod.mk.inj (Option.some.inj hfirst)
    rw [hlast'] at hlast
    obtain ⟨hname, rfl⟩ := Prod.mk.inj (Option.some.inj hlast)
    exact ⟨String.toList_inj.1 hname.symm, String.toList_inj.1 (hversion.trans hversion'.symm)⟩
  · rintro ⟨hname, hversion⟩
    rw [destination, destination, hname, hversion]

/-- How the paths of the artifacts of two crates compare. -/
structure Compares (t : Tree) (deps : RootedPath) (c d : LockedCrate) (a b : Artifact) : Prop where
  places : a.path = b.path ↔ RootedPath.resolve t (joinText deps.text c.destination) =
    RootedPath.resolve t (joinText deps.text d.destination)
  destinations : c.IsDirect t deps → d.IsDirect t deps →
    (a.path = b.path ↔ c.destination = d.destination)
  crates : c.IsDirect t deps → d.IsDirect t deps → c.IsUsual → d.IsUsual →
    (a.path = b.path ↔ c.name = d.name ∧ c.version = d.version)

theorem IsDirect.path_eq {t : Tree} {deps : RootedPath} {c : LockedCrate} {a : Artifact}
    (h : c.IsDirect t deps) (hdeps : ∀ name ∈ deps.path, IsName name)
    (ha : a.GoesTo t deps c.destination) : a.path = Place.text (deps.path ++ [c.destination]) := by
  obtain ⟨p, hp, ha⟩ := ha
  rw [ha, hp.eq_of_linkFree hdeps (isName_destination h.noSlash) h.linkFree]

theorem compares_of_goesTo {t : Tree} {deps : RootedPath} {c d : LockedCrate} {a b : Artifact}
    (hdeps : ∀ name ∈ deps.path, IsName name) (ha : a.GoesTo t deps c.destination)
    (hb : b.GoesTo t deps d.destination) : Compares t deps c d a b := by
  have hdestinations (hc : c.IsDirect t deps) (hd : d.IsDirect t deps) :
      a.path = b.path ↔ c.destination = d.destination := by
    rw [hc.path_eq hdeps ha, hd.path_eq hdeps hb,
      text_inj (named_concat hdeps (isName_destination hc.noSlash))
        (named_concat hdeps (isName_destination hd.noSlash))]
    simp
  refine ⟨?_, hdestinations, fun hc hd husual husual' => ?_⟩
  · obtain ⟨p, hp, hpath⟩ := ha
    obtain ⟨q, hq, hpath'⟩ := hb
    rw [hpath, hpath', hp.resolved, hq.resolved, Except.ok.injEq]
    exact text_inj hp.named hq.named
  · rw [hdestinations hc hd, destination_inj husual husual']

end LockedCrate

/-- Two artifacts of a cargo package have the same path exactly when the destinations of their
crates are resolved to the same place; when both are one name without a link in the way, exactly
when they are equal; and when moreover both crates have usual names and versions, exactly when both
name and version are the same. -/
theorem crate_path_eq_iff (s : Surroundings) (directory : RootedPath) (r : Resolution)
    (h : Cargo.resolve s directory = .ok r) :
    ∃ lockPath crates deps, Cargo.Reads s directory r.identity lockPath crates ∧
      s.outputDir.reRoot s.tree Cargo.depsDir = .ok deps ∧
      List.Forall₂ (LockedCrate.Gives lockPath.subpath)
        (crates.filter LockedCrate.isFetched) r.artifacts ∧
      ∀ x ∈ (crates.filter LockedCrate.isFetched).zip r.artifacts,
        ∀ y ∈ (crates.filter LockedCrate.isFetched).zip r.artifacts,
          LockedCrate.Compares s.tree deps x.1 y.1 x.2 y.2 := by
  obtain ⟨lockPath, crates, deps, hreads, hdeps, hplaced⟩ := Cargo.placed_of_resolve h
  have hgoes (x : LockedCrate × Artifact)
      (hx : x ∈ (crates.filter LockedCrate.isFetched).zip r.artifacts) :
      x.2.GoesTo s.tree deps x.1.destination := ((List.forall₂_iff_zip.1 hplaced).2 hx).2
  exact ⟨lockPath, crates, deps, hreads, hdeps, hplaced.imp fun c a ha => ha.1, fun x hx y hy =>
    LockedCrate.compares_of_goesTo (RootedPath.reRoot_named hdeps) (hgoes x hx) (hgoes y hy)⟩

/-! ## Crates that share a path -/

section Shared

/-- Crates of one name and version from two registries, one with the dash at another place, and one
that is written in a roundabout way. -/
def sharedCrates : List LockedCrate :=
  [⟨"a-1", "2.0", some "registry+https://i", none⟩, ⟨"a-1", "2.0", some "registry+https://j", none⟩,
    ⟨"a", "1-2.0", some "registry+https://i", none⟩,
    ⟨"b/../a-1", "2.0", some "registry+https://i", none⟩]

def sharedArtifact (name version indexUrl : String) : Artifact :=
  ⟨name, "/out/deps/cargo/a-1-2.0", "Cargo.lock", true, false,
    .release ⟨indexUrl, .sourceArchive, version, none⟩⟩

def sharedArtifacts : List Artifact :=
  [sharedArtifact "a-1" "2.0" "https://i", sharedArtifact "a-1" "2.0" "https://j",
    sharedArtifact "a" "1-2.0" "https://i", sharedArtifact "b/../a-1" "2.0" "https://i"]

def sharedSurroundings : Surroundings :=
  Cargo.crateSurroundings kindsManifest (Lockfile.lockText sharedCrates) .permissive
    fun place => .error (.notAGitRepo place)

theorem Cargo.entryOf_registry {s : Surroundings} {deps place : RootedPath}
    {lockFile indexUrl : String} {checkout : Option Checkout} {c : LockedCrate}
    (hsource : CrateSource.ofLocked c.source = .ok (.registry indexUrl))
    (hplace : deps.join s.tree c.destination = .ok place) :
    entryOf s deps lockFile checkout c =
      let origin : Origin := .release ⟨indexUrl, .sourceArchive, c.version, c.checksum⟩
      let a : Artifact := ⟨c.name, place.text, lockFile, c.checksum.isNone, false, origin⟩
      .ok (some a, Component.ofArtifact .cargo a (some c.version)) := by
  have hplace : deps.join s.tree (c.name ++ "-" ++ c.version) = .ok place := hplace
  simp only [entryOf, originOf, hsource, hplace, bind, Except.bind, pure, Except.pure]
  rfl

theorem resolve_shared : ∃ r, Cargo.resolve sharedSurroundings ⟨["src"], ["src"]⟩ = .ok r ∧
    r.artifacts = sharedArtifacts := by
  have hplain : Tree.Plain sharedSurroundings.tree (["out", "deps", "cargo"] ++ ["a-1-2.0"]) :=
    plain_output ⟨by decide, by simp⟩
  have hb : Tree.Plain sharedSurroundings.tree (["out", "deps", "cargo"] ++ ["b"]) :=
    plain_output ⟨by decide, by simp⟩
  have htext : joinText Cargo.crateDeps.text "b/../a-1-2.0" =
      Place.text (["out", "deps", "cargo"] ++ "b" :: ".." :: ["a-1-2.0"]) := rfl
  have hdirect : Cargo.crateDeps.join sharedSurroundings.tree "a-1-2.0" =
      .ok ⟨["out", "deps", "cargo"], ["out", "deps", "cargo", "a-1-2.0"]⟩ :=
    Cargo.join_crate ⟨by decide, by simp⟩ rfl
  have hroundabout : Cargo.crateDeps.join sharedSurroundings.tree "b/../a-1-2.0" =
      .ok ⟨["out", "deps", "cargo"], ["out", "deps", "cargo", "a-1-2.0"]⟩ :=
    RootedPath.join_of_resolve (htext ▸ Plain.resolve_back Cargo.crate_sound hb hplain) (by decide)
  have hi : CrateSource.ofLocked (some "registry+https://i") = .ok (.registry "https://i") := rfl
  have hj : CrateSource.ofLocked (some "registry+https://j") = .ok (.registry "https://j") := rfl
  have hfirst : Cargo.entryOf sharedSurroundings Cargo.crateDeps "Cargo.lock" none
      ⟨"a-1", "2.0", some "registry+https://i", none⟩ = _ := Cargo.entryOf_registry hi hdirect
  have hother : Cargo.entryOf sharedSurroundings Cargo.crateDeps "Cargo.lock" none
      ⟨"a-1", "2.0", some "registry+https://j", none⟩ = _ := Cargo.entryOf_registry hj hdirect
  have hdash : Cargo.entryOf sharedSurroundings Cargo.crateDeps "Cargo.lock" none
      ⟨"a", "1-2.0", some "registry+https://i", none⟩ = _ := Cargo.entryOf_registry hi hdirect
  have hback : Cargo.entryOf sharedSurroundings Cargo.crateDeps "Cargo.lock" none
      ⟨"b/../a-1", "2.0", some "registry+https://i", none⟩ = _ :=
    Cargo.entryOf_registry hi hroundabout
  have hentries :
      sharedCrates.mapM (Cargo.entryOf sharedSurroundings Cargo.crateDeps "Cargo.lock" none) =
        .ok ((sharedCrates.zip sharedArtifacts).map fun x =>
          (some x.2, Component.ofArtifact .cargo x.2 (some x.1.version))) := by
    rw [sharedCrates, List.mapM_cons, hfirst, List.mapM_cons, hother, List.mapM_cons, hdash,
      List.mapM_cons, hback]
    rfl
  have h := Cargo.resolve_crate (Manifest.cargoIdentity_manifestText _ _)
    (Lockfile.parse_lockText sharedCrates) rfl hentries
  exact ⟨_, Cargo.resolvePackage_crate.symm.trans h, rfl⟩

theorem isDirect_shared {c : LockedCrate} (h : Nameable ["out", "deps", "cargo", c.destination]) :
    c.IsDirect sharedSurroundings.tree Cargo.crateDeps :=
  ⟨(h.names c.destination (by simp)).1.noSlash, (plain_output h).linkFree⟩

/-- Crates of one name and version from two registries have usual names and versions and nothing in
their way, and their artifacts have the same path. -/
theorem crate_path_eq_iff_registries :
    let c : LockedCrate := ⟨"a-1", "2.0", some "registry+https://i", none⟩
    let d : LockedCrate := ⟨"a-1", "2.0", some "registry+https://j", none⟩
    let a := sharedArtifact "a-1" "2.0" "https://i"
    let b := sharedArtifact "a-1" "2.0" "https://j"
    ∃ r, Cargo.resolve sharedSurroundings ⟨["src"], ["src"]⟩ = .ok r ∧
      (c, a) ∈ sharedCrates.zip r.artifacts ∧ (d, b) ∈ sharedCrates.zip r.artifacts ∧
      c.IsDirect sharedSurroundings.tree Cargo.crateDeps ∧
      d.IsDirect sharedSurroundings.tree Cargo.crateDeps ∧
      c.IsUsual ∧ d.IsUsual ∧ a.path = b.path := by
  intro c d a b
  obtain ⟨r, hr, hartifacts⟩ := resolve_shared
  obtain ⟨lockPath, crates, deps, hreads, hdeps, -, hcompares⟩ := crate_path_eq_iff _ _ _ hr
  obtain rfl : crates = sharedCrates := hreads.crates_eq
  obtain rfl := Except.ok.inj (Cargo.reRoot_crateDeps.symm.trans hdeps)
  have hfetched : sharedCrates.filter LockedCrate.isFetched = sharedCrates := rfl
  rw [hfetched] at hcompares
  have ha : (c, a) ∈ sharedCrates.zip r.artifacts := by
    rw [hartifacts]
    exact List.mem_cons_self
  have hb : (d, b) ∈ sharedCrates.zip r.artifacts := by
    rw [hartifacts]
    exact List.mem_cons_of_mem _ List.mem_cons_self
  have hdirect : Nameable ["out", "deps", "cargo", c.destination] :=
    ⟨by decide, by simp [c, LockedCrate.destination]⟩
  have husual : c.IsUsual := ⟨by decide, ['2'], ['0'], by decide, by decide⟩
  have husual' : d.IsUsual := ⟨by decide, ['2'], ['0'], by decide, by decide⟩
  exact ⟨r, hr, ha, hb, isDirect_shared hdirect, isDirect_shared hdirect, husual, husual',
    ((hcompares _ ha _ hb).crates (isDirect_shared hdirect) (isDirect_shared hdirect) husual
      husual').2 ⟨rfl, rfl⟩⟩

/-- Four crates, no two of which have one name, one version and one source, share a path. -/
theorem crates_share_path :
    ∃ r lockPath crates, Cargo.resolve sharedSurroundings ⟨["src"], ["src"]⟩ = .ok r ∧
    Cargo.Reads sharedSurroundings ⟨["src"], ["src"]⟩ r.identity lockPath crates ∧
    List.Forall₂ (LockedCrate.Gives lockPath.subpath)
      (crates.filter LockedCrate.isFetched) r.artifacts ∧
    (r.artifacts.map Artifact.path) = List.replicate 4 "/out/deps/cargo/a-1-2.0" ∧
    ((crates.filter LockedCrate.isFetched).map fun c => (c.name, c.version, c.source)).Nodup := by
  obtain ⟨r, hr, hartifacts⟩ := resolve_shared
  obtain ⟨lockPath, crates, deps, hreads, -, hplaced⟩ := Cargo.placed_of_resolve hr
  refine ⟨r, lockPath, crates, hr, hreads, hplaced.imp fun c a ha => ha.1, ?_, ?_⟩
  · rw [hartifacts]
    rfl
  · rw [hreads.crates_eq]
    decide

end Shared

end FetchPlan
