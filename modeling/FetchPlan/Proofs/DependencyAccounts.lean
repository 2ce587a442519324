import FetchPlan.Proofs.CargoText
import FetchPlan.Proofs.FirstOccurrences
import FetchPlan.Proofs.PackageEntries

/-!
What a resolution accounts for. A package that is resolved has an artifact for each dependency
that its files ask for, in their order and for nothing else, and its components are the package
itself and those of its dependencies, each package URL once, in the order in which they are first
found. One dependency that is refused refuses the package (`every_dependency_accounted`).

What is proved of either ecosystem: a package that is resolved is accounted for in full, in the
order of its files (`Accounted`), and one entry that is refused refuses the whole package
(`RefusesEntry`). Both hold in any surroundings, whatever tree and whatever lookup of checkouts.
-/
namespace FetchPlan

/-! ## Components -/

namespace Component

/-- Whether components are those of a package and of what it depends on: the package comes first,
and the package URLs of both are there, each once and no other one, in the order in which they are
first found. -/
structure Accounts (main : Component) (entries cs : List Component) : Prop where
  head : cs.head? = some main
  distinct : (cs.map purl).Nodup
  mem_iff : ∀ p, p ∈ cs.map purl ↔ p = main.purl ∨ ∃ e ∈ entries, e.purl = p
  ordered : (cs.map purl).Pairwise fun p q =>
    ((main :: entries).map purl).idxOf p < ((main :: entries).map purl).idxOf q

theorem accounts_firstOfEach (main : Component) (entries : List Component) :
    Accounts main entries (firstOfEach (main :: entries)) := by
  refine ⟨rfl, nodup_firstOfEach _, fun p => ?_, idxOf_firstOfEach _⟩
  rw [mem_purl_firstOfEach, List.map_cons, List.mem_cons, List.mem_map]

end Component

/-! ## Cargo -/

/-- Whether a locked crate has to be fetched: its source is a registry or a repository. -/
def LockedCrate.isFetched (c : LockedCrate) : Bool :=
  match CrateSource.ofLocked c.source with
  | .ok (.registry _) => true
  | .ok (.git ..) => true
  | _ => false

/-- Whether a component is that of a locked crate: of the crate itself where it stands in the
source tree, else of its artifact. -/
inductive LockedCrate.HasComponent (lockFile : String) (checkout : Option Checkout)
    (artifacts : List Artifact) (c : LockedCrate) : Component → Prop where
  | here (h : CrateSource.ofLocked c.source = .ok .here) :
    HasComponent lockFile checkout artifacts c
      (Component.ofLocal .cargo c.name (some c.version) checkout)
  | fetched {a : Artifact} (ha : a ∈ artifacts) (h : c.Gives lockFile a) :
    HasComponent lockFile checkout artifacts c (Component.ofArtifact .cargo a (some c.version))

/-- The entries of a lock file, before they are read as crates. -/
def Lockfile.rows? (text : String) : Option (List Toml.Entries) :=
  match Manifest.document fileName text with
  | .error _ => none
  | .ok root =>
    match root.lookup "package" with
    | some (.tables rows) => some rows
    | _ => none

theorem Lockfile.parse_eq_mapM {text : String} {rows : List Toml.Entries}
    (h : rows? text = some rows) : parse text = rows.mapM crate := by
  unfold rows? at h
  unfold parse
  cases hdocument : Manifest.document fileName text with
  | error e => rw [hdocument] at h; cases h
  | ok root =>
    rw [hdocument] at h
    simp only at h
    split at h
    · next hrows =>
      obtain rfl := Option.some.inj h
      simp only [bind, Except.bind, hrows]
    · cases h

namespace Cargo

/-- Whether a resolution accounts for the locked crates of a package. -/
def Accounted (s : Surroundings) (directory : RootedPath) (r : Resolution) : Prop :=
  ∃ lockPath crates entries, Reads s directory r.identity lockPath crates ∧
    List.Forall₂ (LockedCrate.Gives lockPath.subpath)
      (crates.filter LockedCrate.isFetched) r.artifacts ∧
    List.Forall₂ (LockedCrate.HasComponent lockPath.subpath r.checkout r.artifacts) crates entries ∧
    Component.Accounts
      (Component.ofLocal .cargo r.identity.name (mainVersion r.identity crates) r.checkout) entries
      r.components

theorem isFetched_of_gives {lockFile : String} {c : LockedCrate} {a : Artifact}
    (h : c.Gives lockFile a) : c.isFetched = true := by
  have hsource : ∀ {o : Origin}, c.ComesFrom o → c.isFetched = true := by
    intro o ho
    unfold LockedCrate.isFetched
    cases ho with
    | registry hsource => rw [hsource]
    | repository hsource _ => rw [hsource]
  exact hsource h.origin

theorem isFetched_of_here {c : LockedCrate} (h : CrateSource.ofLocked c.source = .ok .here) :
    c.isFetched = false := by
  unfold LockedCrate.isFetched
  rw [h]

section Entries

variable {s : Surroundings} {deps : RootedPath} {lockFile : String} {checkout : Option Checkout}

theorem gives_of_entryOf {c : LockedCrate} {a : Artifact} {component : Component}
    (h : entryOf s deps lockFile checkout c = .ok (some a, component)) : c.Gives lockFile a := by
  rcases entryOf_cases h with ⟨-, heq⟩ | ⟨b, hgives, heq⟩
  · cases heq
  · cases heq
    exact hgives

/-- The artifacts are taken up for the crates that have to be fetched, in their order. -/
theorem artifacts_of_entries {crates : List LockedCrate} {xs : List Listed}
    (h : List.Forall₂ (fun c x => entryOf s deps lockFile checkout c = .ok x) crates xs) :
    List.Forall₂
      (fun c a => ∃ component, entryOf s deps lockFile checkout c = .ok (some a, component))
      (crates.filter LockedCrate.isFetched) (xs.filterMap (·.1)) := by
  induction h with
  | nil => exact .nil
  | cons hentry _ ih =>
    rcases entryOf_cases hentry with ⟨hhere, rfl⟩ | ⟨a, hgives, rfl⟩
    · rw [List.filter_cons_of_neg (by simp [isFetched_of_here hhere])]
      exact ih
    · rw [List.filter_cons_of_pos (isFetched_of_gives hgives)]
      exact .cons ⟨_, hentry⟩ ih

theorem hasComponent_of_entries {crates : List LockedCrate} {xs : List Listed}
    (h : List.Forall₂ (fun c x => entryOf s deps lockFile checkout c = .ok x) crates xs) :
    ∀ {artifacts : List Artifact}, xs.filterMap (·.1) ⊆ artifacts →
      List.Forall₂ (LockedCrate.HasComponent lockFile checkout artifacts) crates
        (xs.map (·.2)) := by
  induction h with
  | nil => exact fun _ => .nil
  | cons hentry _ ih =>
    intro artifacts hsub
    rcases entryOf_cases hentry with ⟨hhere, rfl⟩ | ⟨a, hgives, rfl⟩
    · exact .cons (.here hhere) (ih hsub)
    · obtain ⟨ha, hsub⟩ := List.cons_subset.1 hsub
      exact .cons (.fetched ha hgives) (ih hsub)

end Entries

theorem accounted_of_resolve {s : Surroundings} {directory : RootedPath} {r : Resolution}
    (h : resolve s directory = .ok r) : Accounted s directory r := by
  obtain ⟨lockPath, deps, crates, entries, h⟩ := resolves_of_resolve h
  have hentries := mapM_eq_ok_iff.1 h.taken
  refine ⟨lockPath, crates, entries.map (·.2), h.reads, ?_, ?_, ?_⟩
  · rw [h.artifacts]
    exact (artifacts_of_entries hentries).imp fun c a ⟨_, ha⟩ => gives_of_entryOf ha
  · exact hasComponent_of_entries hentries (by rw [h.artifacts]; exact List.Subset.refl _)
  · rw [h.components]
    exact Component.accounts_firstOfEach _ _

/-- Whether an entry of the lock file of a package is refused: it is no crate, or it is one that
cannot be taken up, whatever the provenance of the package is. -/
inductive RefusesEntry (s : Surroundings) (directory : RootedPath) : Prop where
  | row {lockPath : RootedPath} {text : String} {rows : List Toml.Entries}
    {row : Toml.Entries} {e : Error}
    (hlock : directory.join s.tree Lockfile.fileName = .ok lockPath)
      (hread : s.readText lockPath = .ok text)
    (hrows : Lockfile.rows? text = some rows) (hrow : row ∈ rows)
      (h : Lockfile.crate row = .error e) :
    RefusesEntry s directory
  | crate {lockPath deps : RootedPath} {text : String} {crates : List LockedCrate}
    {c : LockedCrate} {e : Error}
    {checkout : Option Checkout} (hlock : directory.join s.tree Lockfile.fileName = .ok lockPath)
    (hread : s.readText lockPath = .ok text) (hparse : Lockfile.parse text = .ok crates)
    (hc : c ∈ crates) (hdeps : s.outputDir.reRoot s.tree depsDir = .ok deps)
    (h : entryOf s deps lockPath.subpath checkout c = .error e) : RefusesEntry s directory

theorem entryOf_ok {s : Surroundings} {deps : RootedPath} {lockFile : String}
    {checkout : Option Checkout} {c : LockedCrate} {x : Listed}
    (h : entryOf s deps lockFile checkout c = .ok x) (checkout' : Option Checkout) :
    ∃ y, entryOf s deps lockFile checkout' c = .ok y := by
  unfold entryOf at h ⊢
  cases horigin : originOf c with
  | error e => rw [horigin] at h; cases h
  | ok origin =>
    rw [horigin] at h
    cases origin with
    | none => exact ⟨_, rfl⟩
    | some origin => exact ⟨x, h⟩

theorem error_of_refusesEntry {s : Surroundings} {directory : RootedPath}
    (h : RefusesEntry s directory) : ∃ e, resolve s directory = .error e := by
  refine error_of_not_ok fun r hr => ?_
  obtain ⟨lockPath, deps, crates, entries, hr⟩ := resolves_of_resolve hr
  obtain ⟨text, hread, hparse⟩ := hr.reads.locked
  have hlock := hr.reads.located
  cases h with
  | row hlock' hread' hrows hrow h =>
    obtain rfl := Except.ok.inj (hlock.symm.trans hlock')
    obtain rfl := Except.ok.inj (hread.symm.trans hread')
    rw [Lockfile.parse_eq_mapM hrows] at hparse
    obtain ⟨c, hc⟩ := ok_of_mem_mapM hparse hrow
    rw [h] at hc
    cases hc
  | @crate _ _ _ _ c e checkout hlock' hread' hparse' hc hdeps h =>
    obtain rfl := Except.ok.inj (hlock.symm.trans hlock')
    obtain rfl := Except.ok.inj (hread.symm.trans hread')
    obtain rfl := Except.ok.inj (hparse.symm.trans hparse')
    obtain rfl := Except.ok.inj (hr.placed.symm.trans hdeps)
    obtain ⟨x, hx⟩ := ok_of_mem_mapM hr.taken hc
    obtain ⟨y, hy⟩ := entryOf_ok hx checkout
    rw [h] at hy
    cases hy

end Cargo

/-! ## Pip -/

/-- Where a requirement comes from. -/
inductive Requirement.ComesFrom (indexUrl : String) (r : Requirement) : Origin → Prop where
  | release {version : String} (h : r.pin = .version version) :
    ComesFrom indexUrl r (.release ⟨indexUrl, .sourceArchive, version, r.hashes.head?⟩)
  | repository {url reference : String} {repository : Repository}
    (h : r.pin = .repository url reference)
    (hrepository : Repository.parse url reference = .ok repository) :
    ComesFrom indexUrl r (.repository repository)
  | download {url : String} (h : r.pin = .url url) :
    ComesFrom indexUrl r (.download (Download.ofDeclared url r.hashes.head?))

namespace Pip

/-- A requirements file as a request names it. -/
structure FileName where
  name : String
  /-- Whether it lists what the build needs. -/
  forBuild : Bool
  /-- Whether it has to be there. -/
  required : Bool
  deriving DecidableEq, Repr

/-- The files of a list that is given, or the usual one. -/
def namesOf (forBuild : Bool) (usual : String) : Option (List String) → List FileName
  | some files => files.map fun file => ⟨file, forBuild, true⟩
  | none => [⟨usual, forBuild, false⟩]

/-- The requirements files of a request: those of the package in their order, then those of its
build. -/
def fileNames (request : PackageRequest) : List FileName :=
  namesOf false usualFile request.requirementFiles ++
    namesOf true usualBuildFile request.buildRequirementFiles

/-- A requirement with the file that it stands in. -/
structure Asked where
  file : Requirements
  /-- The path of the file from the source directory. -/
  what : String
  forBuild : Bool
  requirement : Requirement
  deriving DecidableEq, Repr

/-- Whether these are the requirements that are read from a named file, in their order; there are
none where the file is missing and may be. -/
inductive Asks (s : Surroundings) (directory : RootedPath) (n : FileName) : List Asked → Prop where
  | file {path : RootedPath} {text : String} {file : Requirements}
    (hpath : directory.join s.tree n.name = .ok path) (hread : s.tree.readText path.text = .ok text)
    (hparse : Requirements.parse path.subpath text = .ok file) :
    Asks s directory n (file.requirements.map fun r => ⟨file, path.subpath, n.forBuild, r⟩)
  | missing {path : RootedPath} (hpath : directory.join s.tree n.name = .ok path)
    (hoptional : n.required = false)
    (hread : s.tree.readText path.text = .error .notFound) : Asks s directory n []

/-- Whether an artifact is that of a requirement. -/
structure Asked.Gives (q : Asked) (a : Artifact) : Prop where
  package : a.package = q.requirement.name
  requirementFile : a.requirementFile = q.what
  forBuild : a.buildDependency = q.forBuild
  origin : q.requirement.ComesFrom (q.file.indexUrl.getD defaultPipIndex) a.origin

/-- Whether a requirement is taken up with an artifact. -/
def Asked.Takes (s : Surroundings) (deps : RootedPath) (q : Asked) (a : Artifact) : Prop :=
  checkedArtifact s deps q.file q.what q.forBuild q.requirement = .ok a

/-- Whether a resolution accounts for the requirements of a package. -/
def Accounted (s : Surroundings) (directory : RootedPath) (request : PackageRequest)
    (r : Resolution) : Prop :=
  ∃ asked, identityOf s directory = .ok r.identity ∧
    List.Forall₂ (Asks s directory) (fileNames request) asked ∧
    List.Forall₂ Asked.Gives asked.flatten r.artifacts ∧
    Component.Accounts (Component.ofLocal .pip r.identity.name r.identity.version r.checkout)
      (r.artifacts.map fun a => Component.ofArtifact .pip a none) r.components

structure IsListing (s : Surroundings) (directory : RootedPath) (n : FileName) (l : Listing) :
    Prop where
  path : directory.join s.tree n.name = .ok l.path
  forBuild : l.forBuild = n.forBuild
  required : l.required = n.required

section Files

variable {s : Surroundings} {directory : RootedPath}

theorem isListing_of_listingsOf {forBuild : Bool} {usual : String} {files : Option (List String)}
    {ls : List Listing} (h : listingsOf s directory forBuild usual files = .ok ls) :
    List.Forall₂ (IsListing s directory) (namesOf forBuild usual files) ls := by
  cases files with
  | some files =>
    rw [namesOf, List.forall₂_map_left_iff]
    refine (mapM_eq_ok_iff.1 h).imp fun file l hl => ?_
    obtain ⟨path, hpath, hl⟩ := ok_of_bind hl
    obtain rfl := Except.ok.inj hl
    exact ⟨hpath, rfl, rfl⟩
  | none =>
    obtain ⟨path, hpath, h⟩ := ok_of_bind h
    obtain rfl := Except.ok.inj h
    exact .cons ⟨hpath, rfl, rfl⟩ .nil

theorem isListing_of_listings {request : PackageRequest} {ls : List Listing}
    (h : listings s directory request = .ok ls) :
    List.Forall₂ (IsListing s directory) (fileNames request) ls := by
  obtain ⟨first, hfirst, h⟩ := ok_of_bind h
  obtain ⟨second, hsecond, h⟩ := ok_of_bind h
  obtain rfl := Except.ok.inj h
  exact List.rel_append (isListing_of_listingsOf hfirst) (isListing_of_listingsOf hsecond)

end Files

theorem Asked.Takes.gives {s : Surroundings} {deps : RootedPath} {q : Asked} {a : Artifact}
    (h : q.Takes s deps a) : q.Gives a := by
  obtain ⟨file, what, forBuild, r⟩ := q
  obtain ⟨a', hartifact, h⟩ := ok_of_bind h
  obtain ⟨⟨place, origin, hasHash⟩, hplan, hartifact⟩ := ok_of_bind hartifact
  obtain ⟨destination, -, hartifact⟩ := ok_of_bind hartifact
  obtain rfl := Except.ok.inj hartifact
  split at h
  · cases h
  obtain rfl := Except.ok.inj h
  have horigin : r.ComesFrom (file.indexUrl.getD defaultPipIndex) origin := by
    unfold planOf at hplan
    cases hpin : r.pin with
    | version version =>
      rw [hpin] at hplan
      cases hplan
      exact .release hpin
    | repository url reference =>
      rw [hpin] at hplan
      obtain ⟨repository, hrepository, hplan⟩ := ok_of_bind hplan
      cases hplan
      exact .repository hpin hrepository
    | url url =>
      rw [hpin] at hplan
      simp only at hplan
      split at hplan
      · cases hplan
        exact .download hpin
      · cases hplan
  exact ⟨rfl, rfl, rfl, horigin⟩

theorem Listing.read_some {s : Surroundings} {l : Listing} {text : String}
    (h : l.read s = .ok (some text)) : s.tree.readText l.path.text = .ok text := by
  unfold Listing.read at h
  split at h
  · cases hread : s.tree.readText l.path.text with
    | error e => simp [Surroundings.readText, hread, Except.mapError, Functor.map, Except.map] at h
    | ok text' =>
      simp only [Surroundings.readText, hread, Except.mapError, Functor.map, Except.map] at h
      rw [Option.some.inj (Except.ok.inj h)]
  · unfold Surroundings.readOptional at h
    split at h
    · next text' hread =>
      rw [hread, Option.some.inj (Except.ok.inj h)]
    · split at h
      · cases Except.ok.inj h
      · cases h

theorem Listing.read_none {s : Surroundings} {l : Listing} (h : l.read s = .ok none) :
    l.required = false ∧ s.tree.readText l.path.text = .error .notFound := by
  unfold Listing.read at h
  split at h
  · cases hread : s.readText l.path with
    | error e => rw [hread] at h; cases h
    | ok text => rw [hread] at h; cases h
  · next hoptional =>
    refine ⟨by simpa using hoptional, ?_⟩
    unfold Surroundings.readOptional at h
    split at h
    · cases Except.ok.inj h
    · next e hread =>
      split at h
      · next he => rw [hread, he]
      · cases h

/-- The artifacts of a listed file are those of the requirements that are read from it. -/
theorem asks_of_artifactsOf {s : Surroundings} {directory deps : RootedPath} {n : FileName}
    {l : Listing} {artifacts : List Artifact} (hl : IsListing s directory n l)
    (h : artifactsOf s deps l = .ok artifacts) :
    ∃ asked, Asks s directory n asked ∧ List.Forall₂ (Asked.Takes s deps) asked artifacts := by
  obtain ⟨text, hread, h⟩ := ok_of_bind h
  cases text with
  | none =>
    obtain ⟨hoptional, hmissing⟩ := Listing.read_none hread
    obtain rfl := Except.ok.inj h
    exact ⟨[], .missing hl.path (hl.required ▸ hoptional) hmissing, .nil⟩
  | some text =>
    obtain ⟨file, hparse, h⟩ := ok_of_bind h
    refine ⟨_, .file hl.path (Listing.read_some hread) hparse, ?_⟩
    rw [List.forall₂_map_left_iff, ← hl.forBuild]
    exact mapM_eq_ok_iff.1 h

/-- File by file, the artifacts of the listed files are those of the requirements. -/
theorem asks_of_listed {s : Surroundings} {directory deps : RootedPath} {ns : List FileName}
    {ls : List Listing} (hls : List.Forall₂ (IsListing s directory) ns ls) :
    ∀ {artifacts : List (List Artifact)},
      List.Forall₂ (fun l as => artifactsOf s deps l = .ok as) ls artifacts →
      ∃ asked, List.Forall₂ (Asks s directory) ns asked ∧
        List.Forall₂ (Asked.Takes s deps) asked.flatten artifacts.flatten := by
  induction hls with
  | nil =>
    intro artifacts h
    cases h
    exact ⟨[], .nil, .nil⟩
  | cons hl _ ih =>
    intro artifacts h
    cases h with
    | cons hartifacts hrest =>
      obtain ⟨asked, hasked, htakes⟩ := asks_of_artifactsOf hl hartifacts
      obtain ⟨rest, hasks, hrest⟩ := ih hrest
      exact ⟨asked :: rest, .cons hasked hasks, List.rel_append htakes hrest⟩

theorem accounted_of_resolve {s : Surroundings} {directory : RootedPath} {request : PackageRequest}
    {r : Resolution} (h : resolve s directory request = .ok r) :
    Accounted s directory request r := by
  obtain ⟨deps, files, artifacts, h⟩ := resolves_of_resolve h
  obtain ⟨asked, hasks, htakes⟩ :=
    asks_of_listed (isListing_of_listings h.named) (mapM_eq_ok_iff.1 h.taken)
  refine ⟨asked, h.identity, hasks, ?_, ?_⟩
  · rw [h.artifacts]
    exact htakes.imp fun q a ha => ha.gives
  · rw [h.components]
    exact Component.accounts_firstOfEach _ _

/-- Whether an entry of a requirements file of a package is refused: it is a line that cannot be
read, or a requirement that cannot be taken up. -/
inductive RefusesEntry (s : Surroundings) (directory : RootedPath) (request : PackageRequest) :
    Prop where
  | line {n : FileName} {path : RootedPath} {text : String} {l : List Char} {e : Error}
    (hn : n ∈ fileNames request) (hpath : directory.join s.tree n.name = .ok path)
    (hread : s.tree.readText path.text = .ok text) (hl : l ∈ Requirements.logicalLines text.toList)
    (h : Requirements.line path.subpath l = .error e) : RefusesEntry s directory request
  | requirement {n : FileName} {path deps : RootedPath} {text : String} {file : Requirements}
    {r : Requirement}
    {e : Error} (hn : n ∈ fileNames request) (hpath : directory.join s.tree n.name = .ok path)
    (hread : s.tree.readText path.text = .ok text)
      (hparse : Requirements.parse path.subpath text = .ok file)
    (hr : r ∈ file.requirements) (hdeps : s.outputDir.reRoot s.tree depsDir = .ok deps)
    (h : checkedArtifact s deps file path.subpath n.forBuild r = .error e) :
      RefusesEntry s directory request

theorem read_of_readText {s : Surroundings} {l : Listing} {text : String}
    (h : s.tree.readText l.path.text = .ok text) : l.read s = .ok (some text) := by
  unfold Listing.read Surroundings.readText Surroundings.readOptional
  rw [h]
  split <;> rfl

theorem taken_of_resolves {s : Surroundings} {directory deps : RootedPath}
    {request : PackageRequest} {files : List Listing} {artifacts : List (List Artifact)}
    {r : Resolution} (h : Resolves s directory request deps files artifacts r) {n : FileName}
    (hn : n ∈ fileNames request) {path : RootedPath} {text : String}
    (hpath : directory.join s.tree n.name = .ok path)
    (hread : s.tree.readText path.text = .ok text) :
    ∃ file as, Requirements.parse path.subpath text = .ok file ∧
      file.requirements.mapM (checkedArtifact s deps file path.subpath n.forBuild) = .ok as := by
  obtain ⟨l, hl, hlisting⟩ := exists_of_mem_forall₂ (isListing_of_listings h.named) hn
  obtain rfl := Except.ok.inj (hlisting.path.symm.trans hpath)
  obtain ⟨as, has⟩ := ok_of_mem_mapM h.taken hl
  obtain ⟨text', htext, has⟩ := ok_of_bind has
  obtain rfl := Except.ok.inj ((read_of_readText hread).symm.trans htext)
  obtain ⟨file, hparse, has⟩ := ok_of_bind has
  rw [← hlisting.forBuild]
  exact ⟨file, as, hparse, has⟩

theorem error_of_refusesEntry {s : Surroundings} {directory : RootedPath} {request : PackageRequest}
    (h : RefusesEntry s directory request) : ∃ e, resolve s directory request = .error e := by
  refine error_of_not_ok fun r hr => ?_
  obtain ⟨deps, files, artifacts, hr⟩ := resolves_of_resolve hr
  cases h with
  | line hn hpath hread hl h =>
    obtain ⟨file, as, hparse, -⟩ := taken_of_resolves hr hn hpath hread
    obtain ⟨ls, hls, -⟩ := ok_of_bind hparse
    obtain ⟨x, hx⟩ := ok_of_mem_mapM hls hl
    rw [h] at hx
    cases hx
  | requirement hn hpath hread hparse hmem hdeps h =>
    obtain ⟨file, as, hparse', has⟩ := taken_of_resolves hr hn hpath hread
    obtain rfl := Except.ok.inj (hparse.symm.trans hparse')
    obtain rfl := Except.ok.inj (hr.placed.symm.trans hdeps)
    obtain ⟨a, ha⟩ := ok_of_mem_mapM has hmem
    rw [h] at ha
    cases ha

end Pip

/-! ## Any package -/

/-- Whether a resolution accounts for every dependency of a requested package. -/
def Accounted (s : Surroundings) (request : PackageRequest) (r : Resolution) : Prop :=
  ∃ directory, s.sourceDir.join s.tree request.path = .ok directory ∧
    match request.ecosystem with
    | .cargo => Cargo.Accounted s directory r
    | .pip => Pip.Accounted s directory request r

/-- Whether one dependency of a requested package is refused. -/
def RefusesEntry (s : Surroundings) (request : PackageRequest) : Prop :=
  ∃ directory, s.sourceDir.join s.tree request.path = .ok directory ∧
    match request.ecosystem with
    | .cargo => Cargo.RefusesEntry s directory
    | .pip => Pip.RefusesEntry s directory request

/-- A package that is resolved has an artifact for each of its dependencies that has to be fetched,
in order and for nothing else, and the components of itself and of all its dependencies, each
package URL once and in the order in which it is first found; and where one dependency is refused,
the package is not resolved. -/
theorem every_dependency_accounted (s : Surroundings) (request : PackageRequest) :
    (∀ r, resolvePackage s request = .ok r → Accounted s request r) ∧
      (RefusesEntry s request → ∃ e, resolvePackage s request = .error e) := by
  constructor
  · intro r h
    obtain ⟨directory, hdirectory, -⟩ := ok_of_bind h
    refine ⟨directory, hdirectory, ?_⟩
    cases he : request.ecosystem with
    | cargo =>
      rw [resolvePackage_cargo hdirectory he] at h
      exact Cargo.accounted_of_resolve h
    | pip =>
      rw [resolvePackage_pip hdirectory he] at h
      exact Pip.accounted_of_resolve h
  · rintro ⟨directory, hdirectory, h⟩
    cases he : request.ecosystem with
    | cargo =>
      rw [he] at h
      rw [resolvePackage_cargo hdirectory he]
      exact Cargo.error_of_refusesEntry h
    | pip =>
      rw [he] at h
      rw [resolvePackage_pip hdirectory he]
      exact Pip.error_of_refusesEntry h

/-! ## A package with a crate of each kind -/

section Kinds

open Files.Tree

theorem Cargo.Reads.crates_eq {manifest : String} {crates crates' : List LockedCrate} {mode : Mode}
    {lookup : String → Except Error Checkout} {identity : Identity} {lockPath : RootedPath}
    (h : Reads (crateSurroundings manifest (Lockfile.lockText crates) mode lookup)
      ⟨["src"], ["src"]⟩ identity lockPath crates')
    : crates' = crates := by
  obtain ⟨text, hread, hparse⟩ := h.locked
  obtain rfl := Except.ok.inj (h.located.symm.trans join_lock)
  obtain rfl := Except.ok.inj (hread.symm.trans readText_lock)
  exact Except.ok.inj (hparse.symm.trans (Lockfile.parse_lockText crates))

def kindsManifest : String := Manifest.manifestText ⟨"app", none⟩

def kindsCrates : List LockedCrate :=
  [⟨"app", "1", none, none⟩, ⟨"rand", "2", some "registry+https://i", none⟩,
    ⟨"util", "3", some "git+ssh://h/r#c", none⟩]

def kindsLock : String := Lockfile.lockText kindsCrates

def strangeLock : String := Lockfile.lockText [⟨"rand", "2", some "svn+h", none⟩]

def kindsRelease : Artifact :=
  ⟨"rand", "/out/deps/cargo/rand-2", "Cargo.lock", true, false,
    .release ⟨"https://i", .sourceArchive, "2", none⟩⟩

def kindsClone : Artifact :=
  ⟨"util", "/out/deps/cargo/util-3", "Cargo.lock", false, false,
    .repository ⟨"ssh://h/r", "h", "", "r", "c"⟩⟩

def kindsEntries (checkout : Option Checkout) : List Listed :=
  [(none, Component.ofLocal .cargo "app" (some "1") checkout),
    (some kindsRelease, Component.ofArtifact .cargo kindsRelease (some "2")),
    (some kindsClone, Component.ofArtifact .cargo kindsClone (some "3"))]

def kindsResolution (checkout : Option Checkout) : Resolution where
  ecosystem := .cargo
  path := "."
  identity := ⟨"app", none⟩
  checkout := checkout
  artifacts := [kindsRelease, kindsClone]
  components := Component.firstOfEach
    (Component.ofLocal .cargo "app" (some "1") checkout :: (kindsEntries checkout).map (·.2))
  sanitizedConfig := none

variable {mode : Mode} {lookup : String → Except Error Checkout} {checkout : Option Checkout}

theorem entries_kinds :
    kindsCrates.mapM (Cargo.entryOf (Cargo.crateSurroundings kindsManifest kindsLock mode lookup)
    Cargo.crateDeps "Cargo.lock" checkout) = .ok (kindsEntries checkout) := by
  have hrelease :
      Cargo.crateDeps.join (Cargo.crateSurroundings kindsManifest kindsLock mode lookup).tree
      ("rand" ++ "-" ++ "2") = .ok ⟨["out", "deps", "cargo"], ["out", "deps", "cargo", "rand-2"]⟩ :=
    Cargo.join_crate ⟨by decide, by simp⟩ rfl
  have hclone :
      Cargo.crateDeps.join (Cargo.crateSurroundings kindsManifest kindsLock mode lookup).tree
      ("util" ++ "-" ++ "3") = .ok ⟨["out", "deps", "cargo"], ["out", "deps", "cargo", "util-3"]⟩ :=
    Cargo.join_crate ⟨by decide, by simp⟩ rfl
  have hregistry : Cargo.originOf ⟨"rand", "2", some "registry+https://i", none⟩ =
      .ok (some kindsRelease.origin) := rfl
  have hgit : Cargo.originOf ⟨"util", "3", some "git+ssh://h/r#c", none⟩ =
      .ok (some kindsClone.origin) := rfl
  have hlocal : Cargo.originOf ⟨"app", "1", none, none⟩ = .ok none := rfl
  simp only [kindsCrates, List.mapM_cons, List.mapM_nil, Cargo.entryOf, hlocal, hregistry, hgit,
    hrelease, hclone, bind, Except.bind]
  rfl

theorem resolvePackage_kinds
    (h : (Cargo.crateSurroundings kindsManifest kindsLock mode lookup).provenanceOf
      ⟨["src"], ["src"]⟩ = .ok checkout) :
    resolvePackage (Cargo.crateSurroundings kindsManifest kindsLock mode lookup)
      (PackageRequest.simple .cargo ".") =
      .ok (kindsResolution checkout) :=
  Cargo.resolve_crate (Manifest.cargoIdentity_manifestText _ _)
    (Lockfile.parse_lockText kindsCrates) h entries_kinds

theorem refusesEntry_strange :
    RefusesEntry (Cargo.crateSurroundings kindsManifest strangeLock mode lookup)
    (PackageRequest.simple .cargo ".") := by
  refine ⟨⟨["src"], ["src"]⟩, Files.Tree.join_point Cargo.crate_sound, ?_⟩
  have hrefused :
      Cargo.entryOf (Cargo.crateSurroundings kindsManifest strangeLock mode lookup) Cargo.crateDeps
      (RootedPath.subpath ⟨["src"], ["src", "Cargo.lock"]⟩) none ⟨"rand", "2", some "svn+h", none⟩ =
        .error (.unexpectedFormat "svn+h" "unrecognized source kind") := rfl
  exact .crate Cargo.join_lock Cargo.readText_lock (Lockfile.parse_lockText _) List.mem_cons_self
    Cargo.reRoot_crateDeps hrefused

/-- The package has an artifact for the crate of the registry and for that of the repository, and
of its two entries one component; with a crate of a source of another kind it is not resolved. -/
theorem every_dependency_accounted_kinds :
    let outside (place : String) : Except Error Checkout := .error (.notAGitRepo place)
    let request := PackageRequest.simple .cargo "."
    (resolvePackage (Cargo.crateSurroundings kindsManifest kindsLock .permissive outside) request =
        .ok (kindsResolution none) ∧
      (kindsResolution none).components.map Component.purl =
        ["pkg:cargo/app@1", "pkg:cargo/rand@2?repository_url=https://i",
          "pkg:cargo/util@3?vcs_url=git%2Bssh://h/r%40c"] ∧
      Accounted (Cargo.crateSurroundings kindsManifest kindsLock .permissive outside) request
        (kindsResolution none)) ∧
    RefusesEntry (Cargo.crateSurroundings kindsManifest strangeLock .permissive outside) request ∧
      ∃ e, resolvePackage (Cargo.crateSurroundings kindsManifest strangeLock .permissive outside)
        request = .error e := by
  intro outside request
  have hresolved :
      resolvePackage (Cargo.crateSurroundings kindsManifest kindsLock .permissive outside) request =
      .ok (kindsResolution none) := resolvePackage_kinds rfl
  refine ⟨⟨hresolved, by decide +kernel, ?_⟩, refusesEntry_strange, ?_⟩
  · exact (every_dependency_accounted _ _).1 _ hresolved
  · exact (every_dependency_accounted _ _).2 refusesEntry_strange

end Kinds

end FetchPlan
