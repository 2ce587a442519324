import FetchPlan.Proofs.WorkspaceIdentity

/-!
Where a version comes from. A manifest says at most one version, in one of a few places
(`CrateSays`, `ProjectSays`), and that is the version of its identity, whatever the text of it. So
an identity has an empty version exactly when the manifest writes an empty one where it counts;
and the component of a cargo package then has no version, though the lock file has one for it
(`version_said`, `empty_version_kept`).

What is proved: for either kind of manifest, that the version of its identity is what the manifest
says, and when it is a proper one; and for a cargo package that is resolved, which version its
first component has. An empty version is no proper one, and is kept (`empty_version_kept`).
-/
namespace FetchPlan

open Toml

/-- Whether a version that is absent is none: there is no version, or one that is not empty. -/
def Identity.IsProper (identity : Identity) : Prop :=
  identity.version = none ∨ ∃ v, v ≠ "" ∧ identity.version = some v

theorem Identity.isProper_iff {identity : Identity} :
    identity.IsProper ↔ identity.version ≠ some "" := by
  unfold IsProper
  cases identity.version <;> simp

namespace Manifest

/-! ## What a manifest says -/

/-- Whether a workspace gives its members a version. -/
def WorkspaceSays (root : Entries) (v : String) : Prop := ∃ workspace package,
  root.table? "workspace" = some workspace ∧ workspace.table? "package" = some package ∧
    package.string? "version" = some v

/-- Whether a crate leaves its version to its workspace. The field that says so may be a table of
any form. -/
inductive LeavesVersion (package : Entries) : Prop where
  | absent (h : package.lookup "version" = none)
  | taken {field : Entries} (h : package.table? "version" = some field)
    (hworkspace : field.lookup "workspace" = some (.scalar (.boolean true)))

/-- Where a manifest of cargo says a version: in the package, in the workspace to which the package
leaves it, or in the workspace where there is no package. -/
inductive CrateSays (root : Entries) (v : String) : Prop where
  | own {package : Entries} (hpackage : root.table? "package" = some package)
    (hversion : package.string? "version" = some v)
  | left {package : Entries} (hpackage : root.table? "package" = some package)
    (hleaves : LeavesVersion package)
    (hworkspace : WorkspaceSays root v)
  | alone (hpackage : root.table? "package" = none) (hworkspace : WorkspaceSays root v)

/-- Whether a Python project lists its version among what the build computes. -/
def IsComputed (project : Entries) : Prop :=
  ∃ items, project.lookup "dynamic" = some (.array items) ∧ .scalar (.string "version") ∈ items

/-- Where a Python project file says a version: in a project that has a name, unless the build
computes it. -/
inductive ProjectSays (root : Entries) (v : String) : Prop where
  | own {project : Entries} {name : String} (hproject : root.table? "project" = some project)
    (hname : project.string? "name" = some name) (hcomputed : ¬ IsComputed project)
    (hversion : project.string? "version" = some v)

/-! ## What is read of it -/

variable {text directory : String} {root package project : Entries}
    {identity : Identity} {v : String}

theorem string?_eq_some_iff {n : Node} : n.string? = some v ↔ n = .scalar (.string v) := by
  cases n with
  | scalar s => cases s <;> simp [Node.string?]
  | _ => simp [Node.string?]

theorem boolean?_eq_some_iff {n : Node} {b : Bool} :
    n.boolean? = some b ↔ n = .scalar (.boolean b) := by
  cases n with
  | scalar s => cases s <;> simp [Node.boolean?]
  | _ => simp [Node.boolean?]

theorem items?_eq_some_iff {n : Node} {items : List Node} :
    n.items? = some items ↔ n = .array items := by
  cases n <;> simp [Node.items?]

theorem workspaceVersion_eq_some_iff : workspaceVersion root = some v ↔ WorkspaceSays root v := by
  simp only [workspaceVersion, WorkspaceSays, Option.bind_eq_bind, Option.bind_eq_some_iff]
  constructor
  · rintro ⟨workspace, hworkspace, package, hpackage, hversion⟩
    exact ⟨workspace, package, hworkspace, hpackage, hversion⟩
  · rintro ⟨workspace, package, hworkspace, hpackage, hversion⟩
    exact ⟨workspace, hworkspace, package, hpackage, hversion⟩

theorem fromWorkspace_iff {field : Node} : fromWorkspace field = true ↔
    ∃ es, field.entries? = some es ∧ es.lookup "workspace" = some (.scalar (.boolean true)) := by
  have hgetD : ∀ b : Option Bool, b.getD false = true ↔ b = some true := by
    intro b
    cases b <;> simp
  rw [fromWorkspace, hgetD]
  simp only [Option.bind_eq_some_iff, boolean?_eq_some_iff]
  constructor
  · rintro ⟨n, ⟨es, hes, hlookup⟩, rfl⟩
    exact ⟨es, hes, hlookup⟩
  · rintro ⟨es, hes, hlookup⟩
    exact ⟨_, ⟨es, hes, hlookup⟩, rfl⟩

theorem leavesVersion_of_lookup {field : Node} (h : package.lookup "version" = some field) :
    LeavesVersion package ↔ fromWorkspace field = true := by
  rw [fromWorkspace_iff]
  constructor
  · rintro (habsent | ⟨htable, hworkspace⟩)
    · rw [h] at habsent
      cases habsent
    · rw [Entries.table?, h] at htable
      exact ⟨_, htable, hworkspace⟩
  · rintro ⟨es, hes, hworkspace⟩
    refine .taken ?_ hworkspace
    rw [Entries.table?, h]
    exact hes

theorem crateVersion_eq_some_iff : crateVersion root package = some v ↔
    package.string? "version" = some v ∨ LeavesVersion package ∧ WorkspaceSays root v := by
  unfold crateVersion Entries.string?
  cases hfield : package.lookup "version" with
  | none => simp [workspaceVersion_eq_some_iff, LeavesVersion.absent hfield]
  | some field =>
    simp only [Option.bind_some, leavesVersion_of_lookup hfield]
    cases hstring : field.string? with
    | some own =>
      -- a text of its own is no table, so it leaves nothing to the workspace
      have hown : fromWorkspace field = false := by rw [string?_eq_some_iff.1 hstring]; rfl
      simp [hown]
    | none =>
      simp only [reduceCtorEq, false_or]
      by_cases hleaves : fromWorkspace field = true
      · simp [hleaves, workspaceVersion_eq_some_iff]
      · simp [hleaves]

theorem crateSays_of_package (hpackage : root.table? "package" = some package) : CrateSays root v ↔
    package.string? "version" = some v ∨ LeavesVersion package ∧ WorkspaceSays root v := by
  constructor
  · rintro (⟨hpackage', hown⟩ | ⟨hpackage', hleaves, hworkspace⟩ | ⟨hnone, -⟩)
    · obtain rfl := Option.some.inj (hpackage.symm.trans hpackage')
      exact .inl hown
    · obtain rfl := Option.some.inj (hpackage.symm.trans hpackage')
      exact .inr ⟨hleaves, hworkspace⟩
    · rw [hpackage] at hnone
      cases hnone
  · rintro (hown | ⟨hleaves, hworkspace⟩)
    · exact .own hpackage hown
    · exact .left hpackage hleaves hworkspace

theorem crateSays_of_workspace (hpackage : root.table? "package" = none) :
    CrateSays root v ↔ WorkspaceSays root v := by
  constructor
  · rintro (⟨hpackage', -⟩ | ⟨hpackage', -, -⟩ | ⟨-, hworkspace⟩)
    · rw [hpackage] at hpackage'
      cases hpackage'
    · rw [hpackage] at hpackage'
      cases hpackage'
    · exact hworkspace
  · exact .alone hpackage

theorem of_document {what : String} (h : document what text = .ok root) :
    Toml.parse? text = some root := by
  unfold document at h
  split at h
  · next hparse =>
    cases h
    exact hparse
  · cases h

theorem cargoIdentity_version (h : cargoIdentity text directory = .ok identity) :
    ∃ root, Toml.parse? text = some root ∧ ∀ v, identity.version = some v ↔ CrateSays root v := by
  obtain ⟨root, hroot, h⟩ := ok_of_bind h
  refine ⟨root, of_document hroot, fun v => ?_⟩
  -- a workspace is asked alone only where there is no table for the package
  cases hpackage : root.table? "package" with
  | some package =>
    simp only [hpackage] at h
    split at h
    · cases h
      rw [crateSays_of_package hpackage]
      exact crateVersion_eq_some_iff
    · cases h
  | none =>
    simp only [hpackage] at h
    split at h
    · cases h
      rw [crateSays_of_workspace hpackage]
      exact workspaceVersion_eq_some_iff
    · cases h

theorem versionIsDynamic_iff : versionIsDynamic project = true ↔ IsComputed project := by
  unfold versionIsDynamic IsComputed
  cases hitems : (project.lookup "dynamic").bind Node.items? with
  | none =>
    refine iff_of_false nofun ?_
    rintro ⟨items, hdynamic, -⟩
    rw [hdynamic] at hitems
    cases hitems
  | some items =>
    obtain ⟨n, hdynamic, hn⟩ := Option.bind_eq_some_iff.1 hitems
    obtain rfl := items?_eq_some_iff.1 hn
    simp only [List.any_eq_true, beq_iff_eq, string?_eq_some_iff, hdynamic, Option.some.injEq,
      Node.array.injEq, exists_eq_left', exists_eq_right]

theorem pythonIdentity_version (h : pythonIdentity text directory = .ok identity) :
    ∃ root, Toml.parse? text = some root ∧ ∀ v, identity.version = some v ↔ ProjectSays root v := by
  obtain ⟨root, hroot, h⟩ := ok_of_bind h
  refine ⟨root, of_document hroot, fun v => ?_⟩
  constructor
  · intro hversion
    split at h
    · cases h
      cases hversion
    · next project hproject =>
      split at h
      · cases h
        cases hversion
      · next name hname =>
        cases h
        by_cases hcomputed : versionIsDynamic project = true
        · simp [hcomputed] at hversion
        · simp only [hcomputed, Bool.false_eq_true, if_false] at hversion
          exact .own hproject hname (mt versionIsDynamic_iff.2 hcomputed) hversion
  · rintro ⟨hproject, hname, hcomputed, hversion⟩
    simp only [hproject, hname, mt versionIsDynamic_iff.1 hcomputed,
      Bool.false_eq_true, if_false] at h
    cases h
    exact hversion

end Manifest

/-! ## The version of the component -/

theorem Component.version_ofLocal (e : Ecosystem) (name : String) (version : Option String)
    (checkout : Option Checkout) :
    (Component.ofLocal e name version checkout).version = version.filter (· ≠ "") := by
  rw [Component.ofLocal_eq]
  rfl

namespace Cargo

variable {identity : Identity} {crates : List LockedCrate} {c : LockedCrate} {v : String}

theorem filter_mainVersion_eq_some_iff : (mainVersion identity crates).filter (· ≠ "") = some v ↔
    v ≠ "" ∧ (identity.version = some v ∨
      identity.version = none ∧ ∃ c, IsFirstHere crates identity.name c ∧ c.version = v) := by
  rw [Option.filter_eq_some_iff, mainVersion_eq_some_iff, decide_eq_true_eq, and_comm]

/-- A package whose version is none or empty takes that of the lock file exactly when it is none. -/
theorem takes_locked_iff (hc : IsFirstHere crates identity.name c)
    (hversion : identity.version = none ∨ identity.version = some "") :
    (mainVersion identity crates).filter (· ≠ "") = (some c.version).filter (· ≠ "") ↔
      identity.version = none ∨ c.version = "" := by
  rcases hversion with hnone | hempty
  · have hmain : mainVersion identity crates = some c.version :=
      mainVersion_eq_some_iff.2 (.inr ⟨hnone, c, hc, rfl⟩)
    simp [hmain, hnone]
  · have hmain : mainVersion identity crates = some "" := mainVersion_eq_some_iff.2 (.inl hempty)
    by_cases hlocked : c.version = "" <;> simp [hmain, hempty, hlocked, Option.filter]

end Cargo

/-- The version of an identity is the one that its manifest says, so it is empty exactly when the
manifest says an empty one. The component of a cargo package has that version, or where the
manifest says none the one that the lock file has for the package, but never an empty one; where
the manifest says an empty one the lock file is not asked. -/
theorem version_said (text name : String) (s : Surroundings) (directory : RootedPath) :
    (∀ identity, Manifest.cargoIdentity text name = .ok identity →
      ∃ root, Toml.parse? text = some root ∧
        (∀ v, identity.version = some v ↔ Manifest.CrateSays root v) ∧
        (identity.IsProper ↔ ¬ Manifest.CrateSays root "")) ∧
    (∀ identity, Manifest.pythonIdentity text name = .ok identity →
      ∃ root, Toml.parse? text = some root ∧
        (∀ v, identity.version = some v ↔ Manifest.ProjectSays root v) ∧
        (identity.IsProper ↔ ¬ Manifest.ProjectSays root "")) ∧
    ∀ r, Cargo.resolve s directory = .ok r → ∃ lockPath deps crates entries main,
      Cargo.Resolves s directory lockPath deps crates entries r ∧ r.components.head? = some main ∧
      (∀ v, main.version = some v ↔ v ≠ "" ∧ (r.identity.version = some v ∨
        r.identity.version = none ∧ ∃ c,
          Cargo.IsFirstHere crates r.identity.name c ∧ c.version = v)) ∧
      ∀ c, Cargo.IsFirstHere crates r.identity.name c →
        r.identity.version = none ∨ r.identity.version = some "" →
        (main.version = (some c.version).filter (· ≠ "") ↔
          r.identity.version = none ∨ c.version = "") := by
  refine ⟨?_, ?_, ?_⟩
  · intro identity h
    obtain ⟨root, hroot, hsaid⟩ := Manifest.cargoIdentity_version h
    exact ⟨root, hroot, hsaid, Identity.isProper_iff.trans (not_congr (hsaid ""))⟩
  · intro identity h
    obtain ⟨root, hroot, hsaid⟩ := Manifest.pythonIdentity_version h
    exact ⟨root, hroot, hsaid, Identity.isProper_iff.trans (not_congr (hsaid ""))⟩
  · intro r h
    obtain ⟨lockPath, deps, crates, entries, hresolves⟩ := Cargo.resolves_of_resolve h
    refine ⟨lockPath, deps, crates, entries, _, hresolves,
      by rw [hresolves.components]; rfl, ?_, ?_⟩
    · intro v
      rw [Component.version_ofLocal]
      exact Cargo.filter_mainVersion_eq_some_iff
    · intro c hc hversion
      rw [Component.version_ofLocal]
      exact Cargo.takes_locked_iff hc hversion

/-! ## Versions that are taken, and one that is not -/

section Versions

def leftManifest : String :=
  "[package]\nname = \"a\"\nversion.workspace = true\n[workspace.package]\nversion = \"2\"\n"

def computedProject : String := "[project]\nname = \"p\"\ndynamic = [\"version\"]\n"

def kindsSurroundings : Surroundings :=
  Cargo.crateSurroundings kindsManifest kindsLock .permissive fun p => .error (.notAGitRepo p)

/-- A version is taken from the workspace, none where the build computes it, and the lock file's
where the manifest says none. -/
theorem version_said_left :
    (∃ root, Toml.parse? leftManifest = some root ∧ Manifest.CrateSays root "2") ∧
      (∃ root, Toml.parse? computedProject = some root ∧ ∀ v, ¬ Manifest.ProjectSays root v) ∧
      ∃ r main, Cargo.resolve kindsSurroundings ⟨["src"], ["src"]⟩ = .ok r ∧
        r.components.head? = some main ∧
        main.version = some "1" := by
  obtain ⟨hcrate, -, hresolved⟩ :=
    version_said leftManifest "d" kindsSurroundings ⟨["src"], ["src"]⟩
  obtain ⟨-, hproject, -⟩ := version_said computedProject "d" kindsSurroundings ⟨["src"], ["src"]⟩
  have hleft : Manifest.cargoIdentity leftManifest "d" = .ok ⟨"a", some "2"⟩ := by decide +kernel
  have hcomputed : Manifest.pythonIdentity computedProject "d" = .ok ⟨"p", none⟩ := by
    decide +kernel
  have hresolve : Cargo.resolve kindsSurroundings ⟨["src"], ["src"]⟩ = .ok (kindsResolution none) :=
    Cargo.resolvePackage_crate.symm.trans (resolvePackage_kinds rfl)
  refine ⟨?_, ?_, ?_⟩
  · obtain ⟨root, hroot, hsaid, -⟩ := hcrate _ hleft
    exact ⟨root, hroot, (hsaid "2").1 rfl⟩
  · obtain ⟨root, hroot, hsaid, -⟩ := hproject _ hcomputed
    refine ⟨root, hroot, fun v hv => ?_⟩
    have hnone : none = some v := (hsaid v).2 hv
    cases hnone
  · obtain ⟨lockPath, deps, crates, entries, main, hresolves, hmain, hversion, -⟩ :=
      hresolved _ hresolve
    obtain rfl : crates = kindsCrates := hresolves.reads.crates_eq
    refine ⟨_, main, hresolve, hmain,
      (hversion "1").2 ⟨by decide, .inr ⟨rfl, _, ⟨rfl, rfl, [], _, rfl, ?_⟩, rfl⟩⟩⟩
    intro d hd
    cases hd

def emptyManifest : String := Manifest.manifestText ⟨"app", some ""⟩

def emptySurroundings : Surroundings :=
  Cargo.crateSurroundings emptyManifest (Lockfile.lockText [⟨"app", "1", none, none⟩]) .permissive
    fun p => .error (.notAGitRepo p)

/-- An empty version of a manifest is kept as one, and keeps the lock file's from the component. -/
theorem empty_version_kept :
    Manifest.cargoIdentity emptyManifest "d" = .ok ⟨"app", some ""⟩ ∧
    ¬ Identity.IsProper ⟨"app", some ""⟩ ∧
      Manifest.pythonIdentity "[project]\nname = \"p\"\nversion = \"\"\n" "d" = .ok ⟨"p", some ""⟩ ∧
      ∃ r main, Cargo.resolve emptySurroundings ⟨["src"], ["src"]⟩ = .ok r ∧
        r.identity = ⟨"app", some ""⟩ ∧
        r.components.head? = some main ∧ main.version = none := by
  have hentries : [(⟨"app", "1", none, none⟩ : LockedCrate)].mapM
      (Cargo.entryOf emptySurroundings Cargo.crateDeps "Cargo.lock" none) =
        .ok [(none, Component.ofLocal .cargo "app" (some "1") none)] := rfl
  have hresolve := Cargo.resolve_crate (Manifest.cargoIdentity_manifestText _ _)
    (Lockfile.parse_lockText _) rfl hentries
  refine ⟨Manifest.cargoIdentity_manifestText _ _, ?_, by decide +kernel, ?_⟩
  · rw [Identity.isProper_iff]
    exact fun h => h rfl
  · exact ⟨_, _, Cargo.resolvePackage_crate.symm.trans hresolve, rfl, rfl, rfl⟩

end Versions

end FetchPlan
