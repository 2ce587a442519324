import FetchPlan.Proofs.FlatSources
import FetchPlan.Proofs.PackageUrlText
import FetchPlan.Proofs.SourceReads

/-!
How a package is resolved (`Cargo.resolves_of_resolve`, `Pip.resolves_of_resolve`), and what it
lists before components with one package URL are made one: the package itself, then what its files
name, each with its component and, where something has to be fetched for it, its artifact. A
resolution is made from this list (`listed_of_resolvePackage`), and each of its entries is made in
one of two ways (`Cargo.listed_cases`, `Pip.listed_cases`).

The results are in the form in which later ones use them: each says what an entry is made of and
from which line or crate, with the steps of the resolution as fields of a structure.
-/
namespace FetchPlan

/-- A component that a package lists, with its artifact where it has one. -/
abbrev Listed := Option Artifact × Component

/-! ## Cargo -/

namespace Cargo

/-- What the files of a cargo package say: how it is named, and which crates its lock file has. -/
structure Reads (s : Surroundings) (directory : RootedPath) (identity : Identity)
    (lockPath : RootedPath) (crates : List LockedCrate) : Prop where
  manifest : ∃ path text,
    directory.join s.tree Manifest.cargoFile = .ok path ∧ s.readText path = .ok text ∧
    Manifest.cargoIdentity text (directoryName directory) = .ok identity
  located : directory.join s.tree Lockfile.fileName = .ok lockPath
  locked : ∃ text, s.readText lockPath = .ok text ∧ Lockfile.parse text = .ok crates

theorem reads_crate {manifest lock : String} {mode : Mode} {lookup : String → Except Error Checkout}
    {identity : Identity} {crates : List LockedCrate}
    (hidentity : Manifest.cargoIdentity manifest "src" = .ok identity)
    (hcrates : Lockfile.parse lock = .ok crates) :
    Reads (crateSurroundings manifest lock mode lookup) ⟨["src"], ["src"]⟩ identity
      ⟨["src"], ["src", "Cargo.lock"]⟩
      crates :=
  ⟨⟨_, manifest, join_inSource ["Cargo.toml"] ⟨by decide, by simp⟩ (by decide) rfl,
    readText_manifest, hidentity⟩, join_lock, lock, readText_lock, hcrates⟩

/-- How a package is resolved: its files are read, its provenance is found, and each locked crate
is taken up. -/
structure Resolves (s : Surroundings) (directory : RootedPath) (lockPath deps : RootedPath)
    (crates : List LockedCrate) (entries : List Listed) (r : Resolution) : Prop where
  reads : Reads s directory r.identity lockPath crates
  checkout : s.provenanceOf directory = .ok r.checkout
  placed : s.outputDir.reRoot s.tree depsDir = .ok deps
  taken : crates.mapM (entryOf s deps lockPath.subpath r.checkout) = .ok entries
  ecosystem : r.ecosystem = .cargo
  artifacts : r.artifacts = entries.filterMap (·.1)
  components : r.components = Component.firstOfEach
    (Component.ofLocal .cargo r.identity.name (mainVersion r.identity crates) r.checkout ::
      entries.map (·.2))

theorem resolves_of_resolve {s : Surroundings} {directory : RootedPath} {r : Resolution}
    (h : resolve s directory = .ok r) : ∃ lockPath deps crates entries,
      Resolves s directory lockPath deps crates entries r := by
  obtain ⟨manifestPath, hmanifest, h⟩ := ok_of_bind h
  obtain ⟨manifest, hmanifestText, h⟩ := ok_of_bind h
  obtain ⟨identity, hidentity, h⟩ := ok_of_bind h
  obtain ⟨lockPath, hlock, h⟩ := ok_of_bind h
  obtain ⟨lock, hlockText, h⟩ := ok_of_bind h
  obtain ⟨crates, hcrates, h⟩ := ok_of_bind h
  obtain ⟨checkout, hcheckout, h⟩ := ok_of_bind h
  obtain ⟨deps, hdeps, h⟩ := ok_of_bind h
  obtain ⟨entries, hentries, h⟩ := ok_of_bind h
  obtain ⟨config, -, h⟩ := ok_of_bind h
  obtain rfl := Except.ok.inj h
  exact ⟨lockPath, deps, crates, entries,
    ⟨⟨manifestPath, manifest, hmanifest, hmanifestText, hidentity⟩, hlock, lock,
      hlockText, hcrates⟩, hcheckout, hdeps, hentries, rfl, rfl, rfl⟩

end Cargo

/-- What a cargo package lists: itself, and its locked crates in their order. -/
def Cargo.listed (s : Surroundings) (directory : RootedPath) : Except Error (List Listed) := do
  let manifestPath ← directory.join s.tree Manifest.cargoFile
  let identity ← Manifest.cargoIdentity (← s.readText manifestPath) (directoryName directory)
  let lockPath ← directory.join s.tree Lockfile.fileName
  let crates ← Lockfile.parse (← s.readText lockPath)
  let checkout ← s.provenanceOf directory
  let deps ← s.outputDir.reRoot s.tree Cargo.depsDir
  let entries ← crates.mapM (Cargo.entryOf s deps lockPath.subpath checkout)
  pure
    ((none, Component.ofLocal .cargo identity.name (Cargo.mainVersion identity crates) checkout) ::
      entries)

theorem Cargo.listed_of_resolve {s : Surroundings} {directory : RootedPath} {r : Resolution}
    (h : Cargo.resolve s directory = .ok r) :
    ∃ es, Cargo.listed s directory = .ok es ∧ r.ecosystem = .cargo ∧
      r.artifacts = es.filterMap (·.1) ∧ r.components = Component.firstOfEach (es.map (·.2)) := by
  obtain ⟨lockPath, deps, crates, entries, h⟩ := Cargo.resolves_of_resolve h
  obtain ⟨manifestPath, manifest, hmanifest, hmanifestText, hidentity⟩ := h.reads.manifest
  obtain ⟨lock, hlockText, hcrates⟩ := h.reads.locked
  refine ⟨(none,
    Component.ofLocal .cargo r.identity.name (Cargo.mainVersion r.identity crates) r.checkout) ::
      entries, ?_, h.ecosystem, h.artifacts, h.components⟩
  simp only [Cargo.listed, hmanifest, hmanifestText, hidentity, h.reads.located, hlockText, hcrates,
    h.checkout, h.placed, h.taken, bind, Except.bind]
  rfl

/-- Whether an entry is a package of the source tree, which has no artifact. -/
def Listed.IsLocal (e : Ecosystem) (x : Listed) : Prop :=
  ∃ name version checkout, x = (none, Component.ofLocal e name version checkout)

def Listed.IsOf (e : Ecosystem) (a : Artifact) (x : Listed) : Prop :=
  ∃ lockedVersion, x = (some a, Component.ofArtifact e a lockedVersion)

/-- A repository is recorded with the URL and the reference that it was asked for with. -/
theorem Repository.version_of_parse {url reference : String} {r : Repository}
    (h : Repository.parse url reference = .ok r) :
    r.version = "git+" ++ url ++ "@" ++ reference := by
  unfold Repository.parse at h
  split at h
  · cases h
  simp only at h
  split at h
  · cases h
  split at h
  · cases h
  · rw [← Except.ok.inj h, Repository.version]

/-- Where a locked crate comes from. -/
inductive LockedCrate.ComesFrom (c : LockedCrate) : Origin → Prop where
  | registry {indexUrl : String} (h : CrateSource.ofLocked c.source = .ok (.registry indexUrl)) :
    ComesFrom c (.release ⟨indexUrl, .sourceArchive, c.version, c.checksum⟩)
  | repository {url commit : String} {query : Option String} {repository : Repository}
    (h : CrateSource.ofLocked c.source = .ok (.git url query commit))
    (hrepository : Repository.parse url commit = .ok repository) :
      ComesFrom c (.repository repository)

/-- Whether an artifact is that of a locked crate. -/
structure LockedCrate.Gives (lockFile : String) (c : LockedCrate) (a : Artifact) : Prop where
  package : a.package = c.name
  requirementFile : a.requirementFile = lockFile
  missingChecksum : a.missingChecksum = Cargo.lacksChecksum a.origin
  origin : c.ComesFrom a.origin

/-- A locked crate is taken up as a crate of the source tree, or with the artifact that it gives. -/
theorem Cargo.entryOf_cases {s : Surroundings} {deps : RootedPath} {lockFile : String}
    {checkout : Option Checkout} {c : LockedCrate} {x : Listed}
    (h : Cargo.entryOf s deps lockFile checkout c = .ok x) :
    (CrateSource.ofLocked c.source = .ok .here ∧
      x = (none, Component.ofLocal .cargo c.name (some c.version) checkout)) ∨
    ∃ a, c.Gives lockFile a ∧ x = (some a, Component.ofArtifact .cargo a (some c.version)) := by
  obtain ⟨origin, horigin, h⟩ := ok_of_bind h
  obtain ⟨source, hsource, horigin⟩ := ok_of_bind horigin
  cases source with
  | here =>
    obtain rfl := Except.ok.inj horigin
    obtain rfl := Except.ok.inj h
    exact .inl ⟨hsource, rfl⟩
  | registry indexUrl =>
    obtain rfl := Except.ok.inj horigin
    obtain ⟨destination, -, h⟩ := ok_of_bind h
    obtain rfl := Except.ok.inj h
    exact .inr ⟨_, ⟨rfl, rfl, rfl, .registry hsource⟩, rfl⟩
  | git url query commit =>
    obtain ⟨repository, hrepository, horigin⟩ := ok_of_bind horigin
    obtain rfl := Except.ok.inj horigin
    obtain ⟨destination, -, h⟩ := ok_of_bind h
    obtain rfl := Except.ok.inj h
    exact .inr ⟨_, ⟨rfl, rfl, rfl, .repository hsource hrepository⟩, rfl⟩

/-- A cargo package lists packages of the source tree and artifacts, none of them a download, that
lack a checksum where the lock file has none. -/
theorem Cargo.listed_cases {s : Surroundings} {directory : RootedPath} {es : List Listed}
    (h : Cargo.listed s directory = .ok es) : ∀ x ∈ es, Listed.IsLocal .cargo x ∨
      ∃ a, Listed.IsOf .cargo a x ∧ a.missingChecksum = Cargo.lacksChecksum a.origin ∧ ∀ d,
        a.origin ≠ .download d := by
  obtain ⟨manifestPath, -, h⟩ := ok_of_bind h
  obtain ⟨manifest, -, h⟩ := ok_of_bind h
  obtain ⟨identity, -, h⟩ := ok_of_bind h
  obtain ⟨lockPath, -, h⟩ := ok_of_bind h
  obtain ⟨lock, -, h⟩ := ok_of_bind h
  obtain ⟨crates, -, h⟩ := ok_of_bind h
  obtain ⟨checkout, -, h⟩ := ok_of_bind h
  obtain ⟨deps, -, h⟩ := ok_of_bind h
  obtain ⟨entries, hentries, h⟩ := ok_of_bind h
  obtain rfl := Except.ok.inj h
  intro x hx
  rcases List.mem_cons.1 hx with rfl | hx
  · exact .inl ⟨_, _, _, rfl⟩
  obtain ⟨crate, -, hcrate⟩ := exists_of_mem_mapM hentries hx
  rcases Cargo.entryOf_cases hcrate with ⟨-, rfl⟩ | ⟨a, hgives, rfl⟩
  · exact .inl ⟨_, _, _, rfl⟩
  · refine .inr ⟨a, ⟨_, rfl⟩, hgives.missingChecksum, fun d hd => ?_⟩
    have horigin := hgives.origin
    rw [hd] at horigin
    cases horigin

/-! ## Pip -/

namespace Pip

/-- How a package is resolved: its provenance is found, its requirements files are read, and each
requirement is taken up. -/
structure Resolves (s : Surroundings) (directory : RootedPath) (request : PackageRequest)
    (deps : RootedPath) (files : List Listing) (artifacts : List (List Artifact)) (r : Resolution) :
    Prop where
  identity : identityOf s directory = .ok r.identity
  checkout : s.provenanceOf directory = .ok r.checkout
  placed : s.outputDir.reRoot s.tree depsDir = .ok deps
  named : listings s directory request = .ok files
  taken : files.mapM (artifactsOf s deps) = .ok artifacts
  ecosystem : r.ecosystem = .pip
  artifacts : r.artifacts = artifacts.flatten
  components : r.components = Component.firstOfEach
    (Component.ofLocal .pip r.identity.name r.identity.version r.checkout ::
      r.artifacts.map fun a => Component.ofArtifact .pip a none)

theorem resolves_of_resolve {s : Surroundings} {directory : RootedPath} {request : PackageRequest}
    {r : Resolution} (h : resolve s directory request = .ok r) : ∃ deps files artifacts,
      Resolves s directory request deps files artifacts r := by
  obtain ⟨identity, hidentity, h⟩ := ok_of_bind h
  obtain ⟨checkout, hcheckout, h⟩ := ok_of_bind h
  obtain ⟨deps, hdeps, h⟩ := ok_of_bind h
  obtain ⟨files, hfiles, h⟩ := ok_of_bind h
  obtain ⟨artifacts, hartifacts, h⟩ := ok_of_bind h
  obtain rfl := Except.ok.inj h
  exact ⟨deps, files, artifacts, hidentity, hcheckout, hdeps, hfiles, hartifacts, rfl, rfl, rfl⟩

end Pip

/-- What a pip package lists: itself, and what its requirements files name, file by file. -/
def Pip.listed (s : Surroundings) (directory : RootedPath) (request : PackageRequest) :
    Except Error (List Listed) := do
  let identity ← Pip.identityOf s directory
  let checkout ← s.provenanceOf directory
  let deps ← s.outputDir.reRoot s.tree Pip.depsDir
  let files ← Pip.listings s directory request
  let artifacts := (← files.mapM (Pip.artifactsOf s deps)).flatten
  pure ((none, Component.ofLocal .pip identity.name identity.version checkout) ::
    artifacts.map fun a => (some a, Component.ofArtifact .pip a none))

theorem Pip.listed_of_resolve {s : Surroundings} {directory : RootedPath} {request : PackageRequest}
    {r : Resolution} (h : Pip.resolve s directory request = .ok r) :
    ∃ es, Pip.listed s directory request = .ok es ∧ r.ecosystem = .pip ∧
      r.artifacts = es.filterMap (·.1) ∧ r.components = Component.firstOfEach (es.map (·.2)) := by
  obtain ⟨deps, files, artifacts, h⟩ := Pip.resolves_of_resolve h
  refine ⟨(none, Component.ofLocal .pip r.identity.name r.identity.version r.checkout) ::
    r.artifacts.map fun a => (some a, Component.ofArtifact .pip a none), ?_, h.ecosystem, ?_, ?_⟩
  · simp only [Pip.listed, h.identity, h.checkout, h.placed, h.named, h.taken, h.artifacts,
      bind, Except.bind]
    rfl
  · simp [List.filterMap_map]
  · rw [h.components]
    simp [List.map_map, Function.comp_def]

/-- Whether an artifact is that of a requirement of a file that was read. -/
def Pip.IsAsked (s : Surroundings) (a : Artifact) : Prop :=
  ∃ deps what text file forBuild r,
    Requirements.parse what text = .ok file ∧ r ∈ file.requirements ∧
    Pip.checkedArtifact s deps file what forBuild r = .ok a

theorem Pip.listed_cases {s : Surroundings} {directory : RootedPath} {request : PackageRequest}
    {es : List Listed} (h : Pip.listed s directory request = .ok es) :
    ∀ x ∈ es, Listed.IsLocal .pip x ∨
      ∃ a, Listed.IsOf .pip a x ∧ Pip.IsAsked s a := by
  obtain ⟨identity, -, h⟩ := ok_of_bind h
  obtain ⟨checkout, -, h⟩ := ok_of_bind h
  obtain ⟨deps, -, h⟩ := ok_of_bind h
  obtain ⟨files, -, h⟩ := ok_of_bind h
  obtain ⟨artifacts, hartifacts, h⟩ := ok_of_bind h
  obtain rfl := Except.ok.inj h
  intro x hx
  rcases List.mem_cons.1 hx with rfl | hx
  · exact .inl ⟨_, _, _, rfl⟩
  obtain ⟨a, ha, rfl⟩ := List.mem_map.1 hx
  refine .inr ⟨a, ⟨none, rfl⟩, ?_⟩
  obtain ⟨fromFile, hfile, ha⟩ := List.mem_flatten.1 ha
  obtain ⟨l, -, hl⟩ := exists_of_mem_mapM hartifacts hfile
  obtain ⟨text, -, hl⟩ := ok_of_bind hl
  cases text with
  | none =>
    obtain rfl := Except.ok.inj hl
    cases ha
  | some text =>
    obtain ⟨file, hparse, hl⟩ := ok_of_bind hl
    obtain ⟨r, hr, hchecked⟩ := exists_of_mem_mapM hl ha
    exact ⟨deps, _, text, file, l.forBuild, r, hparse, hr, hchecked⟩

/-! ## Any package -/

section Resolve

variable {s : Surroundings} {request : PackageRequest} {directory : RootedPath}

theorem resolvePackage_cargo (h : s.sourceDir.join s.tree request.path = .ok directory)
    (he : request.ecosystem = .cargo) : resolvePackage s request = Cargo.resolve s directory := by
  simp only [resolvePackage, h, he, bind, Except.bind]

theorem resolvePackage_pip (h : s.sourceDir.join s.tree request.path = .ok directory)
    (he : request.ecosystem = .pip) :
    resolvePackage s request = Pip.resolve s directory request := by
  simp only [resolvePackage, h, he, bind, Except.bind]

end Resolve

/-- What a requested package lists. -/
def listed (s : Surroundings) (request : PackageRequest) : Except Error (List Listed) := do
  let directory ← s.sourceDir.join s.tree request.path
  match request.ecosystem with
  | .cargo => Cargo.listed s directory
  | .pip => Pip.listed s directory request

/-- The artifacts of a resolution are those that its package lists, and its components the first
ones with their package URLs. -/
theorem listed_of_resolvePackage {s : Surroundings} {request : PackageRequest} {r : Resolution}
    (h : resolvePackage s request = .ok r) :
    ∃ es, listed s request = .ok es ∧ r.ecosystem = request.ecosystem ∧
      r.artifacts = es.filterMap (·.1) ∧ r.components = Component.firstOfEach (es.map (·.2)) := by
  obtain ⟨directory, hdirectory, -⟩ := ok_of_bind h
  cases he : request.ecosystem with
  | cargo =>
    rw [resolvePackage_cargo hdirectory he] at h
    simp only [listed, hdirectory, he, bind, Except.bind]
    exact Cargo.listed_of_resolve h
  | pip =>
    rw [resolvePackage_pip hdirectory he] at h
    simp only [listed, hdirectory, he, bind, Except.bind]
    exact Pip.listed_of_resolve h

theorem listed_cases {s : Surroundings} {request : PackageRequest} {es : List Listed}
    (h : listed s request = .ok es) :
    ∀ x ∈ es, Listed.IsLocal request.ecosystem x ∨ ∃ a, Listed.IsOf request.ecosystem a x := by
  obtain ⟨directory, hdirectory, h⟩ := ok_of_bind h
  intro x hx
  cases he : request.ecosystem with
  | cargo =>
    rw [he] at h
    exact (Cargo.listed_cases h x hx).imp_right fun ⟨a, ha, _⟩ => ⟨a, ha⟩
  | pip =>
    rw [he] at h
    exact (Pip.listed_cases h x hx).imp_right fun ⟨a, ha, _⟩ => ⟨a, ha⟩

/-- Whether surroundings are those of a run. -/
structure Surroundings.IsOf (t : Files.Tree) (lookup : String → Except Error Checkout)
    (input : RunInput) (o : Outcome) (s : Surroundings) : Prop where
  tree : s.tree = t
  lookup : s.lookup = lookup
  mode : s.mode = o.plan.mode
  source : RootedPath.new t input.sourceDir = .ok s.sourceDir
  output : RootedPath.new t input.outputDir = .ok s.outputDir

/-- Whether a resolution is that of a request for a package that lists these entries. -/
structure Resolution.IsOf (s : Surroundings) (request : PackageRequest) (es : List Listed)
    (r : Resolution) : Prop where
  resolved : resolvePackage s request = .ok r
  listed : listed s request = .ok es
  artifacts : r.artifacts = es.filterMap (·.1)

/-- A run resolves its packages in a pool that it gets, in the surroundings that its directories
and its plan give. -/
theorem outcome_of_run {t : Files.Tree} {threads : Threads}
    {lookup : String → Except Error Checkout} {input : RunInput} {o : Outcome}
    (h : run t threads lookup input = .ok o) : ∃ s pool, Surroundings.IsOf t lookup input o s ∧
      threads.pool o.plan.maxParallel = .ok pool ∧ o = o.plan.outcome pool s := by
  obtain ⟨settings, -, h⟩ := ok_of_bind h
  obtain ⟨plan, -, h⟩ := ok_of_bind h
  obtain ⟨sourceDir, hsource, h⟩ := ok_of_bind h
  obtain ⟨outputDir, houtput, h⟩ := ok_of_bind h
  obtain ⟨pool, hpool, h⟩ := ok_of_bind h
  obtain rfl := Except.ok.inj h
  exact ⟨⟨t, sourceDir, outputDir, plan.mode, lookup⟩, pool,
    ⟨rfl, rfl, rfl, ok_of_mapError hsource, ok_of_mapError houtput⟩, ok_of_mapError hpool, rfl⟩

theorem ThreadPool.single_inOrder : ThreadPool.single.InOrder := fun _ _ => rfl

theorem Threads.single_inOrder : Threads.single.InOrder := by
  rintro _ _ ⟨⟩
  exact ThreadPool.single_inOrder

section Results

variable {pool : ThreadPool} {s : Surroundings} {requests : List PackageRequest}

/-- In order, each request gets what its package alone is resolved to. -/
theorem ThreadPool.InOrder.resolveAll_eq (h : pool.InOrder) :
    resolveAll pool s requests = requests.map fun request =>
      (request, resolvePackage s request) := by
  rw [resolveAll, h, ← List.map_prod_left_eq_zip]

theorem mem_resolved (h : pool.InOrder) {r : Resolution} :
    r ∈ resolved (resolveAll pool s requests) ↔
    ∃ request ∈ requests, resolvePackage s request = .ok r := by
  simp only [resolved, h.resolveAll_eq, List.mem_filterMap, List.mem_map]
  constructor
  · rintro ⟨_, ⟨request, hrequest, rfl⟩, hr⟩
    refine ⟨request, hrequest, ?_⟩
    cases hresult : resolvePackage s request with
    | error e => simp [hresult, Except.toOption] at hr
    | ok r' => simpa [hresult, Except.toOption] using hr
  · rintro ⟨request, hrequest, hr⟩
    exact ⟨_, ⟨request, hrequest, rfl⟩, by simp [hr, Except.toOption]⟩

theorem mem_failed (h : pool.InOrder) {request : PackageRequest} {e : Error}
    (hrequest : request ∈ requests) (hresult : resolvePackage s request = .error e) :
    PackageFailure.ofError request e ∈ failed (resolveAll pool s requests) := by
  rw [h.resolveAll_eq]
  refine List.mem_filterMap.2 ⟨(request, .error e), List.mem_map.2 ⟨request, hrequest, ?_⟩, rfl⟩
  rw [hresult]

end Results

/-! ## A pip package with a requirements file of each kind -/

section Lists

open Files

/-- A source directory with two files. -/
def listTree (first second : List UInt8) : Tree :=
  ⟨[(["src"], .directory), (["src", "a.txt"], .file first), (["src", "b.txt"], .file second)], []⟩

/-- The surroundings of a run on that directory with the texts of its files, outside of version
control. -/
def listSurroundings (first second : String) : Surroundings where
  tree := listTree (Text.utf8 first.toList) (Text.utf8 second.toList)
  sourceDir := ⟨["src"], ["src"]⟩
  outputDir := ⟨["out"], ["out"]⟩
  mode := .permissive
  lookup place := .error (.notAGitRepo place)

def listRequest : PackageRequest := ⟨.pip, ".", some ["a.txt"], some ["b.txt"]⟩

def listDeps : RootedPath := ⟨["out", "deps", "pip"], ["out", "deps", "pip"]⟩

section Files

variable {x y : List UInt8}

theorem listTree_flat : listTree x y = Tree.flat [("a.txt", x), ("b.txt", y)] := rfl

theorem list_sound : (Tree.flat [("a.txt", x), ("b.txt", y)]).Sound :=
  Tree.flat_sound (by simp only [List.map_cons, List.map_nil]; decide)

theorem join_listSource :
    (⟨["src"], ["src"]⟩ : RootedPath).join (listTree x y) "." = .ok ⟨["src"], ["src"]⟩ := by
  rw [listTree_flat]
  exact Tree.join_point list_sound

theorem join_inList (p : Place) {rel : String} (hp : Tree.Nameable ("src" :: p))
    (hends : ∀ name ∈ ["a.txt", "b.txt"], [name] <+: p → p = [name])
    (htext : joinText "/src" rel = Place.text ("src" :: p)) :
    (⟨["src"], ["src"]⟩ : RootedPath).join (listTree x y) rel = .ok ⟨["src"], "src" :: p⟩ := by
  rw [listTree_flat]
  exact Tree.join_source list_sound hp hends htext

theorem entry_inList (p : Place) (hp : Tree.Nameable ("src" :: p))
    (hends : ∀ name ∈ ["a.txt", "b.txt"], [name] <+: p → p = [name])
    (hnul : (Place.text ("src" :: p)).contains '\x00' = false)
    (hlen : (Place.text ("src" :: p)).utf8ByteSize < Tree.pathLimit) :
    (listTree x y).entry true (Place.text ("src" :: p)) =
      ((listTree x y).lookup ("src" :: p)).elim (.error .notFound) .ok := by
  rw [listTree_flat]
  exact Tree.entry_source list_sound hp hends hnul hlen

theorem reRoot_deps :
    (⟨["out"], ["out"]⟩ : RootedPath).reRoot (listTree x y) Pip.depsDir = .ok listDeps := by
  rw [listTree_flat]
  exact Tree.reRoot_output list_sound ⟨by decide, by simp⟩ rfl

theorem join_archive {archive : String} {p : Place}
    (hp : Tree.Nameable ("out" :: "deps" :: "pip" :: p))
    (htext : joinText "/out/deps/pip" archive = Place.text ("out" :: "deps" :: "pip" :: p)) :
    listDeps.join (listTree x y) archive =
      .ok ⟨["out", "deps", "pip"], "out" :: "deps" :: "pip" :: p⟩ := by
  rw [listTree_flat]
  exact Tree.join_output list_sound hp htext (by simp [listDeps])

end Files

variable {a b : String}

theorem identityOf_list :
    Pip.identityOf (listSurroundings a b) ⟨["src"], ["src"]⟩ = .ok ⟨"src", none⟩ := by
  have hjoin :
      (⟨["src"], ["src"]⟩ : RootedPath).join (listSurroundings a b).tree Manifest.pythonFile =
      .ok ⟨["src"], ["src", "pyproject.toml"]⟩ :=
    join_inList ["pyproject.toml"] ⟨by decide, by simp⟩ (by decide) rfl
  have hmissing : (listSurroundings a b).tree.entry true "/src/pyproject.toml" = .error .notFound :=
    entry_inList ["pyproject.toml"] ⟨by decide, by simp⟩ (by decide) (by simp; decide) (by decide)
  have hread :
      (listSurroundings a b).readOptional ⟨["src"], ["src", "pyproject.toml"]⟩ = .ok none := by
    unfold Surroundings.readOptional
    rw [show RootedPath.text ⟨["src"], ["src", "pyproject.toml"]⟩ = "/src/pyproject.toml" from rfl,
      Tree.readText_of_error hmissing]
    rfl
  unfold Pip.identityOf
  simp only [hjoin, hread, bind, Except.bind]
  rfl

theorem listings_list : Pip.listings (listSurroundings a b) ⟨["src"], ["src"]⟩ listRequest =
    .ok [⟨⟨["src"], ["src", "a.txt"]⟩, false, true⟩,
      ⟨⟨["src"], ["src", "b.txt"]⟩, true, true⟩] := by
  have hfirst : (⟨["src"], ["src"]⟩ : RootedPath).join (listSurroundings a b).tree "a.txt" =
      .ok ⟨["src"], ["src", "a.txt"]⟩ := join_inList ["a.txt"] ⟨by decide, by simp⟩ (by decide) rfl
  have hsecond : (⟨["src"], ["src"]⟩ : RootedPath).join (listSurroundings a b).tree "b.txt" =
      .ok ⟨["src"], ["src", "b.txt"]⟩ := join_inList ["b.txt"] ⟨by decide, by simp⟩ (by decide) rfl
  unfold Pip.listings Pip.listingsOf listRequest
  simp only [List.mapM_cons, List.mapM_nil, hfirst, hsecond, bind, Except.bind]
  rfl

theorem read_first :
    (⟨⟨["src"], ["src", "a.txt"]⟩, false, true⟩ : Pip.Listing).read (listSurroundings a b) =
    .ok (some a) := by
  have hentry :
      (listSurroundings a b).tree.entry true "/src/a.txt" = .ok (.file (Text.utf8 a.toList)) :=
    entry_inList ["a.txt"] ⟨by decide, by simp⟩ (by decide) (by simp; decide) (by decide)
  unfold Pip.Listing.read Surroundings.readText
  rw [show RootedPath.text ⟨["src"], ["src", "a.txt"]⟩ = "/src/a.txt" from rfl,
    Tree.readText_of_entry hentry]
  rfl

theorem read_second :
    (⟨⟨["src"], ["src", "b.txt"]⟩, true, true⟩ : Pip.Listing).read (listSurroundings a b) =
    .ok (some b) := by
  have hentry :
      (listSurroundings a b).tree.entry true "/src/b.txt" = .ok (.file (Text.utf8 b.toList)) :=
    entry_inList ["b.txt"] ⟨by decide, by simp⟩ (by decide) (by simp; decide) (by decide)
  unfold Pip.Listing.read Surroundings.readText
  rw [show RootedPath.text ⟨["src"], ["src", "b.txt"]⟩ = "/src/b.txt" from rfl,
    Tree.readText_of_entry hentry]
  rfl

theorem artifactsOf_eq {s : Surroundings} {deps : RootedPath} {l : Pip.Listing} {text : String}
    {file : Requirements} (hread : l.read s = .ok (some text))
    (hparse : Requirements.parse l.path.subpath text = .ok file) :
    Pip.artifactsOf s deps l =
      file.requirements.mapM (Pip.checkedArtifact s deps file l.path.subpath l.forBuild) := by
  unfold Pip.artifactsOf
  rw [hread]
  show (Requirements.parse l.path.subpath text >>= _) = _
  rw [hparse]
  rfl

theorem resolvePackage_list {first second : Requirements} {as bs : List Artifact}
    (ha : Requirements.parse "a.txt" a = .ok first) (hb : Requirements.parse "b.txt" b = .ok second)
    (has : first.requirements.mapM
      (Pip.checkedArtifact (listSurroundings a b) listDeps first "a.txt" false) = .ok as)
    (hbs : second.requirements.mapM
      (Pip.checkedArtifact (listSurroundings a b) listDeps second "b.txt" true) = .ok bs) :
    resolvePackage (listSurroundings a b) listRequest = .ok {
      ecosystem := .pip
      path := "."
      identity := ⟨"src", none⟩
      checkout := none
      artifacts := as ++ bs
      components := Component.firstOfEach (Component.ofLocal .pip "src" none none ::
        (as ++ bs).map fun a => Component.ofArtifact .pip a none)
      sanitizedConfig := none } := by
  have hdirectory :
      (listSurroundings a b).sourceDir.join (listSurroundings a b).tree listRequest.path =
      .ok ⟨["src"], ["src"]⟩ := join_listSource
  have hcheckout : (listSurroundings a b).provenanceOf ⟨["src"], ["src"]⟩ = .ok none := rfl
  have hdeps :
      (listSurroundings a b).outputDir.reRoot (listSurroundings a b).tree
        Pip.depsDir = .ok listDeps :=
    reRoot_deps
  have hfirst :
      Pip.artifactsOf (listSurroundings a b) listDeps ⟨⟨["src"], ["src", "a.txt"]⟩, false, true⟩ =
      .ok as := by
    rw [← has]
    exact artifactsOf_eq read_first ha
  have hsecond :
      Pip.artifactsOf (listSurroundings a b) listDeps ⟨⟨["src"], ["src", "b.txt"]⟩, true, true⟩ =
      .ok bs := by
    rw [← hbs]
    exact artifactsOf_eq read_second hb
  rw [resolvePackage_pip hdirectory rfl]
  unfold Pip.resolve
  simp only [identityOf_list, hcheckout, hdeps, listings_list, List.mapM_cons, List.mapM_nil,
    hfirst, hsecond, bind, Except.bind]
  simp [pure, Except.pure, RootedPath.subpath]

theorem checkedArtifact_version {s : Surroundings} {deps place : RootedPath} {file : Requirements}
    {what name version : String} {extras hashes : List String} {marker : Option String}
    {forBuild : Bool} (hplace : deps.join s.tree (Pip.releaseArchive name version) = .ok place)
    (hhash : file.requireHashes = true → hashes ≠ []) :
    Pip.checkedArtifact s deps file what forBuild
      ⟨name, extras, marker, hashes, .version version⟩ = .ok {
      package := name
      path := place.text
      requirementFile := what
      missingChecksum := hashes.isEmpty
      buildDependency := forBuild
      origin :=
        .release ⟨file.indexUrl.getD defaultPipIndex, .sourceArchive, version, hashes.head?⟩ } := by
  have hkept : ¬ (file.requireHashes = true ∧ hashes.isEmpty = true) := by
    rintro ⟨hrequire, hempty⟩
    exact hhash hrequire (by simpa using hempty)
  unfold Pip.checkedArtifact Pip.artifactOf Pip.planOf
  simp only [bind, Except.bind, hplace, Bool.not_not, pure, Except.pure, if_neg hkept]

def listInput : RunInput := ⟨"/src", "/out", "", ⟨some "permissive", none, [listRequest]⟩⟩

def listPlan : Plan := ⟨.permissive, 0, [listRequest]⟩

theorem run_list : run (listSurroundings a b).tree .single (listSurroundings a b).lookup listInput =
    .ok (listPlan.outcome .single (listSurroundings a b)) := by
  have hsettings : settingsOf listInput.settings = .ok Settings.empty := rfl
  have hplan : Settings.empty.plan listInput.overrides = .ok listPlan := rfl
  have hsource : RootedPath.new (listSurroundings a b).tree listInput.sourceDir =
      .ok ⟨["src"], ["src"]⟩ :=
    Tree.new_source list_sound
  have houtput : RootedPath.new (listSurroundings a b).tree listInput.outputDir =
      .ok ⟨["out"], ["out"]⟩ :=
    Tree.new_output list_sound
  unfold run
  simp only [hsettings, hplan, hsource, houtput, Except.mapError, bind, Except.bind]
  rfl

theorem resolutions_list {r : Resolution}
    (h : resolvePackage (listSurroundings a b) listRequest = .ok r) :
    (listPlan.outcome .single (listSurroundings a b)).resolutions = [r] := by
  simp [Plan.outcome, listPlan, resolved, ThreadPool.single_inOrder.resolveAll_eq, h,
    Except.toOption]

end Lists

end FetchPlan
