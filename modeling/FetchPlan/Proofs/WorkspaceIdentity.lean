import FetchPlan.Proofs.LockedSources

/-!
Which version the first component of a cargo package has. A manifest that gives no version takes
that of the first crate of its name in the lock file that stands in the source tree
(`of_mainVersion_ne`). The manifest of a workspace alone goes by the name of its directory, so one
of its members may have its name: exactly then, but for crates with an empty version, the
workspace takes a version or is made one with a crate (`workspace_apart_iff`,
`member_lends_version`).

What is proved of every cargo package that is resolved: where its version comes from when the
manifest has none, and, for the manifest of a workspace alone, exactly when its component is told
apart from those of the crates. A member named like the directory is not told apart
(`member_lends_version`).
-/
namespace FetchPlan

open Toml

/-! ## Package URLs without a version -/

namespace Component

open PackageUrl

theorem purlOfOrigin_release (n : String) (v : Option String) {r : Release}
    (hindex : r.indexUrl ≠ "") :
    purlOfOrigin .cargo (PackageUrl.ofName "cargo" n) v (.release r) =
      ⟨"cargo", n, (some r.version).filter (· ≠ ""),
        (if r.checksum.getD "" = "" then [] else [("checksum", r.checksum.getD "")]) ++
          if isDefaultCargoRegistry r.indexUrl then [] else [("repository_url", r.indexUrl)]⟩ := by
  have hkeys : ("repository_url" : String) ≠ "checksum" ∧
      ¬ ("repository_url" : String) < "checksum" := by decide
  by_cases hdefault : isDefaultCargoRegistry r.indexUrl = true <;> by_cases hchecksum :
    r.checksum.getD "" = "" <;>
    simp [purlOfOrigin, withQualifier, withVersion, PackageUrl.ofName, normalName, insertSorted,
      hdefault, hchecksum, hindex, hkeys]

/-- A release has the package URL of a package without a version only if nothing else tells the two
apart. -/
theorem purlOfOrigin_release_eq_iff {n name : String} {v : Option String} {r : Release}
    {checkout : Option Checkout} (hindex : r.indexUrl ≠ "") :
    purlOfOrigin .cargo (PackageUrl.ofName "cargo" n) v (.release r) =
      localUrl .cargo name none checkout ↔
      n = name ∧ r.version = "" ∧ r.checksum.getD "" = "" ∧
      isDefaultCargoRegistry r.indexUrl = true ∧
        checkout = none := by
  rw [purlOfOrigin_release n v hindex]
  by_cases hdefault : isDefaultCargoRegistry r.indexUrl = true <;> by_cases hchecksum :
    r.checksum.getD "" = "" <;>
    cases checkout <;> simp [localUrl, normalName, Ecosystem.purlType, hdefault, hchecksum]

/-- A repository has the package URL of a package without a version only if that is checked out
from it. -/
theorem purlOfOrigin_repository_eq_iff {n name version : String} {r : Repository}
    {checkout : Option Checkout} :
    purlOfOrigin .cargo (PackageUrl.ofName "cargo" n) (some version) (.repository r) =
        localUrl .cargo name none checkout ↔
      n = name ∧ version = "" ∧ checkout.map Checkout.vcsUrl = some r.version := by
  have hne : r.version ≠ "" := by simp [Repository.version]
  cases checkout <;>
    simp [purlOfOrigin, withQualifier, withVersion, PackageUrl.ofName, normalName, insertSorted,
      localUrl, Ecosystem.purlType, hne, @eq_comm String r.version]

theorem name_of_ofLocal_purl_eq {n name : String} {v v' : Option String}
    {checkout checkout' : Option Checkout}
    (h : (ofLocal .cargo n v checkout).purl = (ofLocal .cargo name v' checkout').purl) :
    n = name := by
  rw [ofLocal_eq, ofLocal_eq] at h
  have hurl := eq_of_render_eq (readable_localUrl _ _ _ _) (readable_localUrl _ _ _ _) h
  exact congrArg PackageUrl.name hurl

end Component

/-- Whether a locked crate is not told apart from a workspace of its name without a version: it
stands in the source tree, and lends its version, or its version is empty and nothing in its source
makes up for that. -/
inductive LockedCrate.Resembles (checkout : Option Checkout) (c : LockedCrate) : Prop where
  | here (h : c.source = none) : Resembles checkout c
  | registry {indexUrl : String} (h : CrateSource.ofLocked c.source = .ok (.registry indexUrl))
    (hversion : c.version = "") (hchecksum : c.checksum.getD "" = "")
    (hindex : isDefaultCargoRegistry indexUrl = true) (hcheckout : checkout = none) :
      Resembles checkout c
  | repository {url commit : String} {query : Option String}
    (h : CrateSource.ofLocked c.source = .ok (.git url query commit)) (hversion : c.version = "")
    (hcheckout : checkout.map Checkout.vcsUrl = some ("git+" ++ url ++ "@" ++ commit)) :
      Resembles checkout c

namespace Cargo

variable {s : Surroundings} {deps : RootedPath} {lockFile : String} {checkout : Option Checkout}

theorem indexUrl_ne_empty {source : Option String} {indexUrl : String}
    (h : CrateSource.ofLocked source = .ok (.registry indexUrl)) : indexUrl ≠ "" := by
  cases source with
  | none => cases h
  | some v => exact (CrateSource.ofText_eq_ok_iff.1 h).index_ne_empty

/-- A crate with a source has the package URL of a workspace without a version exactly when it has
its name and resembles it. -/
theorem purl_eq_iff {c : LockedCrate} {x : Listed} {name : String} (hsource : c.source ≠ none)
    (h : entryOf s deps lockFile checkout c = .ok x) :
    x.2.purl = (Component.ofLocal .cargo name none checkout).purl ↔
    c.name = name ∧ c.Resembles checkout := by
  rcases entryOf_cases h with ⟨hhere, -⟩ | ⟨a, ⟨hpackage, -, -, horigin⟩, rfl⟩
  · exact absurd (CrateSource.ofLocked_eq_here_iff.1 hhere) hsource
  have hurls : (Component.ofArtifact .cargo a (some c.version)).purl =
      (Component.ofLocal .cargo name none checkout).purl ↔
        a.packageUrl .cargo (some c.version) = Component.localUrl .cargo name none checkout := by
    rw [Component.ofArtifact_purl, Component.ofLocal_eq]
    constructor
    · exact PackageUrl.eq_of_render_eq (Component.built_packageUrl _ _ _).readable
        (Component.readable_localUrl _ _ _ _)
    · exact fun he => congrArg PackageUrl.render he
  rw [hurls, Artifact.packageUrl, hpackage]
  generalize a.origin = origin at horigin
  cases horigin with
  | registry hregistry =>
    rw [Ecosystem.purlType, Component.purlOfOrigin_release_eq_iff (indexUrl_ne_empty hregistry)]
    refine and_congr_right fun _ =>
      ⟨fun ⟨hversion, hchecksum, hindex, hcheckout⟩ => ?_, fun hresembles => ?_⟩
    · exact .registry hregistry hversion hchecksum hindex hcheckout
    · cases hresembles with
      | here hnone => exact absurd hnone hsource
      | registry h' hversion hchecksum hindex hcheckout =>
        cases hregistry.symm.trans h'
        exact ⟨hversion, hchecksum, hindex, hcheckout⟩
      | repository h' => cases hregistry.symm.trans h'
  | @repository url commit query repository hgit hrepository =>
    rw [Ecosystem.purlType, Component.purlOfOrigin_repository_eq_iff,
      Repository.version_of_parse hrepository]
    refine and_congr_right fun _ =>
      ⟨fun ⟨hversion, hcheckout⟩ => .repository hgit hversion hcheckout, fun hresembles => ?_⟩
    cases hresembles with
    | here hnone => exact absurd hnone hsource
    | registry h' => cases hgit.symm.trans h'
    | repository h' hversion hcheckout =>
      cases hgit.symm.trans h'
      exact ⟨hversion, hcheckout⟩

/-! ## The version of the package -/

variable {identity : Identity} {crates : List LockedCrate}

/-- Whether a locked crate is the first of its name that stands in the source tree. -/
structure IsFirstHere (crates : List LockedCrate) (name : String) (c : LockedCrate) : Prop where
  name_eq : c.name = name
  here : c.source = none
  first : ∃ before after,
    crates = before ++ c :: after ∧ ∀ d ∈ before, d.name = name → d.source ≠ none

theorem IsFirstHere.mem {name : String} {c : LockedCrate} (h : IsFirstHere crates name c) :
    c ∈ crates := by
  obtain ⟨before, after, rfl, -⟩ := h.first
  exact List.mem_append_right before List.mem_cons_self

theorem find?_here_iff {name : String} {c : LockedCrate} :
    crates.find? (fun c => c.source.isNone && c.name == name) = some c ↔
    IsFirstHere crates name c := by
  rw [List.find?_eq_some_iff_append]
  have hno (d : LockedCrate) : (!(d.source.isNone && d.name == name)) = true ↔
      (d.name = name → d.source ≠ none) := by
    cases hsource : d.source <;> by_cases hname : d.name = name <;> simp [hname]
  simp only [Bool.and_eq_true, Option.isNone_iff_eq_none, beq_iff_eq, hno]
  constructor
  · rintro ⟨⟨hsource, hname⟩, before, after, hcrates, hfirst⟩
    exact ⟨hname, hsource, before, after, hcrates, hfirst⟩
  · rintro ⟨hname, hsource, before, after, hcrates, hfirst⟩
    exact ⟨⟨hsource, hname⟩, before, after, hcrates, hfirst⟩

theorem exists_isFirstHere {name : String} {c : LockedCrate} (hc : c ∈ crates)
    (hname : c.name = name) (hsource : c.source = none) : ∃ d, IsFirstHere crates name d := by
  have hfound : (crates.find? fun c => c.source.isNone && c.name == name).isSome = true :=
    List.find?_isSome.2 ⟨c, hc, by simp [hsource, hname]⟩
  obtain ⟨d, hd⟩ := Option.isSome_iff_exists.1 hfound
  exact ⟨d, find?_here_iff.1 hd⟩

/-- The version of a package is that of its manifest, or where that has none the one that the lock
file has for it. -/
theorem mainVersion_eq_some_iff {v : String} : mainVersion identity crates = some v ↔
    identity.version = some v ∨ identity.version = none ∧ ∃ c,
    IsFirstHere crates identity.name c ∧ c.version = v := by
  rw [mainVersion, Option.or_eq_some_iff]
  simp only [Option.map_eq_some_iff, find?_here_iff]

theorem mainVersion_of_none (hversion : identity.version = none)
    (h : ∀ c ∈ crates, c.name = identity.name → c.source ≠ none) :
    mainVersion identity crates = none := by
  apply Option.eq_none_iff_forall_ne_some.2
  intro v hv
  rcases mainVersion_eq_some_iff.1 hv with hsome | ⟨-, c, hc, -⟩
  · rw [hversion] at hsome
    cases hsome
  · exact h c hc.mem hc.name_eq hc.here

theorem mainVersion_of_here (hversion : identity.version = none) {c : LockedCrate} (hc : c ∈ crates)
    (hname : c.name = identity.name) (hsource : c.source = none) :
    ∃ d ∈ crates, d.source = none ∧ d.name = identity.name ∧
      mainVersion identity crates = some d.version := by
  obtain ⟨d, hd⟩ := exists_isFirstHere hc hname hsource
  exact ⟨d, hd.mem, hd.here, hd.name_eq, mainVersion_eq_some_iff.2 (.inr ⟨hversion, d, hd, rfl⟩)⟩

/-- A package takes a version from the lock file only when its manifest gives none, and then from a
crate of its name that stands in the source tree. -/
theorem of_mainVersion_ne (h : mainVersion identity crates ≠ identity.version) :
    identity.version = none ∧
    ∃ d ∈ crates, d.source = none ∧ d.name = identity.name ∧
      mainVersion identity crates = some d.version := by
  cases hversion : identity.version with
  | some v =>
    rw [mainVersion, hversion] at h
    exact absurd rfl h
  | none =>
    refine ⟨rfl, ?_⟩
    by_contra hnone
    refine h ?_
    rw [hversion]
    refine mainVersion_of_none hversion fun c hc hname hsource => hnone ?_
    exact mainVersion_of_here hversion hc hname hsource

/-! ## Workspaces -/

/-- Whether a manifest is that of a workspace alone, which says no version. -/
structure IsVirtual (s : Surroundings) (directory : RootedPath) : Prop where
  manifest : ∃ path text root,
    directory.join s.tree Manifest.cargoFile = .ok path ∧ s.readText path = .ok text ∧
    Toml.parse? text = some root ∧ root.table? "package" = none ∧
    Manifest.workspaceVersion root = none

/-- Whether the component of a package has no version, and is that of none of the entries of its
lock file. -/
structure StandsApart (entries : List Listed) (main : Component) : Prop where
  noVersion : main.version = none
  distinct : ∀ x ∈ entries, x.2.purl ≠ main.purl

variable {directory lockPath : RootedPath} {entries : List Listed} {r : Resolution}

/-- The manifest of a workspace alone names it after its directory. -/
theorem identity_of_isVirtual (h : Reads s directory identity lockPath crates)
    (hvirtual : IsVirtual s directory) : identity = ⟨directoryName directory, none⟩ := by
  obtain ⟨path, text, hjoin, hread, hidentity⟩ := h.manifest
  obtain ⟨path', text', root, hjoin', hread', hroot, hpackage, hversion⟩ := hvirtual.manifest
  obtain rfl := Except.ok.inj (hjoin.symm.trans hjoin')
  obtain rfl := Except.ok.inj (hread.symm.trans hread')
  simp only [Manifest.cargoIdentity, Manifest.document, hroot, bind, Except.bind, hpackage,
    hversion] at hidentity
  split at hidentity
  · exact (Except.ok.inj hidentity).symm
  · cases hidentity

/-- The component of a package without a version stands apart exactly when no crate of its name
resembles it. -/
theorem standsApart_iff (hversion : identity.version = none)
    (h : crates.mapM (entryOf s deps lockFile checkout) = .ok entries) :
    StandsApart entries
      (Component.ofLocal .cargo identity.name (mainVersion identity crates) checkout) ↔
      ∀ c ∈ crates, c.name = identity.name → ¬ c.Resembles checkout := by
  have hentries := mapM_eq_ok_iff.1 h
  by_cases hlent : ∃ c ∈ crates, c.name = identity.name ∧ c.source = none
  · -- the crate that lends its version has the package URL of the package
    obtain ⟨c, hc, hname, hsource⟩ := hlent
    refine ⟨fun hapart => ?_, fun hno => absurd (.here hsource) (hno c hc hname)⟩
    obtain ⟨d, hd, hdsource, hdname, hmain⟩ := mainVersion_of_here hversion hc hname hsource
    obtain ⟨x, hx, hentry⟩ := exists_of_mem_forall₂ hentries hd
    have hcomponent :
        x.2 = Component.ofLocal .cargo identity.name (mainVersion identity crates) checkout := by
      rw [hmain, ← hdname]
      simp only [entryOf, originOf, hdsource] at hentry
      rw [← Except.ok.inj hentry]
    exact absurd (congrArg Component.purl hcomponent) (hapart.distinct x hx)
  · have hsourced : ∀ c ∈ crates, c.name = identity.name → c.source ≠ none :=
      fun c hc hname hsource => hlent ⟨c, hc, hname, hsource⟩
    rw [mainVersion_of_none hversion hsourced]
    constructor
    · intro hapart c hc hname hresembles
      obtain ⟨x, hx, hentry⟩ := exists_of_mem_forall₂ hentries hc
      exact hapart.distinct x hx ((purl_eq_iff (hsourced c hc hname) hentry).2 ⟨hname, hresembles⟩)
    · intro hno
      refine ⟨by rw [Component.ofLocal_eq]; rfl, fun x hx hpurl => ?_⟩
      obtain ⟨c, hc, hentry⟩ := exists_of_mem_forall₂ hentries.flip hx
      by_cases hsource : c.source = none
      · simp only [entryOf, originOf, hsource] at hentry
        rw [← Except.ok.inj hentry] at hpurl
        exact hsourced c hc (Component.name_of_ofLocal_purl_eq hpurl) hsource
      · obtain ⟨hname, hresembles⟩ := (purl_eq_iff hsource hentry).1 hpurl
        exact hno c hc hname hresembles

end Cargo

/-- Of a cargo package that is resolved, the first component has the version of the manifest, or
where that gives none the version of a crate of its name in the lock file that stands in the source
tree. For a workspace alone without a version it has the name of the directory; and it has no
version and stands apart from the entries of the lock file exactly when no crate of that name
resembles it. -/
theorem workspace_apart_iff {s : Surroundings} {directory : RootedPath} {r : Resolution}
    (h : Cargo.resolve s directory = .ok r) :
    ∃ lockPath deps crates entries, Cargo.Resolves s directory lockPath deps crates entries r ∧
      (Cargo.mainVersion r.identity crates ≠ r.identity.version → r.identity.version = none ∧
        ∃ d ∈ crates, d.source = none ∧ d.name = r.identity.name ∧
          Cargo.mainVersion r.identity crates = some d.version) ∧
      (Cargo.IsVirtual s directory → r.identity = ⟨directoryName directory, none⟩ ∧
        ∃ main, r.components.head? = some main ∧ main.name = directoryName directory ∧
          (Cargo.StandsApart entries main ↔
            ∀ c ∈ crates, c.name = directoryName directory → ¬ c.Resembles r.checkout)) := by
  obtain ⟨lockPath, deps, crates, entries, hresolves⟩ := Cargo.resolves_of_resolve h
  refine ⟨lockPath, deps, crates, entries, hresolves, Cargo.of_mainVersion_ne, fun hvirtual => ?_⟩
  have hidentity := Cargo.identity_of_isVirtual hresolves.reads hvirtual
  have hversion : r.identity.version = none := congrArg Identity.version hidentity
  have hname : r.identity.name = directoryName directory := congrArg Identity.name hidentity
  refine ⟨hidentity, _, by rw [hresolves.components]; rfl, ?_, ?_⟩
  · rw [Component.ofLocal_eq, hname]
    rfl
  · rw [← hname]
    exact Cargo.standsApart_iff hversion hresolves.taken

/-! ## A member with the name of the directory -/

section Member

/-- The manifest of a workspace in a directory `src`, with one member. -/
def memberManifest (member : String) :
    String := tableText "workspace]".toList [("members", .list [member])]

def memberLock (member : String) : String := Lockfile.lockText [⟨member, "0.1.0", none, none⟩]

theorem parse?_memberManifest (member : String) : Toml.parse? (memberManifest member) =
    some [("workspace", .table .header (fieldNodes [("members", .list [member])]))] :=
  parse?_tableText (fun _ => rfl) (by simp)

def memberSurroundings (member : String) : Surroundings :=
  Cargo.crateSurroundings (memberManifest member) (memberLock member) .permissive fun place =>
    .error (.notAGitRepo place)

variable {member : String}

theorem isVirtual_member : Cargo.IsVirtual (memberSurroundings member) ⟨["src"], ["src"]⟩ := by
  have hjoin :
      (⟨["src"], ["src"]⟩ : RootedPath).join (memberSurroundings member).tree Manifest.cargoFile =
      .ok ⟨["src"], ["src", "Cargo.toml"]⟩ :=
    Cargo.join_inSource ["Cargo.toml"] ⟨by decide, by simp⟩ (by decide) rfl
  exact ⟨_, _, _, hjoin, Cargo.readText_manifest, parse?_memberManifest member, rfl, rfl⟩

theorem resolve_member : ∃ r, Cargo.resolve (memberSurroundings member) ⟨["src"], ["src"]⟩ = .ok r ∧
    r.identity = ⟨"src", none⟩ ∧ r.components = Component.firstOfEach
      [Component.ofLocal .cargo "src"
        (Cargo.mainVersion ⟨"src", none⟩ [⟨member, "0.1.0", none, none⟩]) none,
        Component.ofLocal .cargo member (some "0.1.0") none] := by
  have hidentity : Manifest.cargoIdentity (memberManifest member) "src" = .ok ⟨"src", none⟩ := by
    unfold Manifest.cargoIdentity Manifest.document
    rw [parse?_memberManifest]
    rfl
  have hentries : [(⟨member, "0.1.0", none, none⟩ : LockedCrate)].mapM
      (Cargo.entryOf (memberSurroundings member) Cargo.crateDeps "Cargo.lock" none) =
        .ok [(none, Component.ofLocal .cargo member (some "0.1.0") none)] := rfl
  have hresolve := Cargo.resolve_crate hidentity (Lockfile.parse_lockText _) rfl hentries
  exact ⟨_, Cargo.resolvePackage_crate.symm.trans hresolve, rfl, rfl⟩

/-- A member with another name leaves the workspace without a version. -/
theorem workspace_apart_iff_core :
    ∃ r, Cargo.resolve (memberSurroundings "core") ⟨["src"], ["src"]⟩ = .ok r ∧
      Cargo.IsVirtual (memberSurroundings "core") ⟨["src"], ["src"]⟩ ∧ r.identity = ⟨"src", none⟩ ∧
      ∃ main, r.components.head? = some main ∧ main.name = "src" ∧ main.version = none := by
  obtain ⟨r, hr, -, -⟩ := @resolve_member "core"
  obtain ⟨lockPath, deps, crates, entries, hresolves, -, hvirtual⟩ := workspace_apart_iff hr
  obtain ⟨hidentity, main, hmain, hname, hiff⟩ := hvirtual isVirtual_member
  obtain rfl : crates = [⟨"core", "0.1.0", none, none⟩] := hresolves.reads.crates_eq
  refine ⟨r, hr, isVirtual_member, hidentity, main, hmain, hname,
    (hiff.2 fun c hc hcname => ?_).noVersion⟩
  obtain rfl := List.mem_singleton.1 hc
  exact absurd hcname (by decide)

/-- A member with the name of the directory lends its version to the workspace, and the two are
made one. -/
theorem member_lends_version :
    ∃ r, Cargo.resolve (memberSurroundings "src") ⟨["src"], ["src"]⟩ = .ok r ∧
      Cargo.IsVirtual (memberSurroundings "src") ⟨["src"], ["src"]⟩ ∧ r.identity = ⟨"src", none⟩ ∧
      ∃ main, r.components = [main] ∧ main.name = "src" ∧ main.version = some "0.1.0" := by
  obtain ⟨r, hr, hidentity, hcomponents⟩ := @resolve_member "src"
  exact ⟨r, hr, isVirtual_member, hidentity, _, hcomponents, rfl, rfl⟩

end Member

end FetchPlan
