import FetchPlan.Proofs.DependencyAccounts

/-!
The two modes compared. The mode of a run is used for the provenance of a directory alone, and
makes a difference there only for a directory in no repository and outside of the output directory
(`restricts_provenance`); each further step gives the same from the same (`Restricts.bind`). So
strict mode resolves a package as permissive mode does or refuses it for that reason, and a
package that it resolves elsewhere says which checkout it stands in, as do the crates of its lock
file without a source (`strict_only_removes`).

What is proved of any request in any surroundings: what strict mode resolves permissive mode
resolves to the same; where they differ strict mode says that the directory is in no repository,
and exactly when that is so and it lies outside of the output directory; and what strict mode
resolves outside of it records its checkout. Nothing is assumed of the lookup.
-/
namespace FetchPlan

/-! ## Where the mode is used -/

def Surroundings.withMode (s : Surroundings) (m : Mode) : Surroundings := { s with mode := m }

/-- Whether a result of strict mode is that of permissive mode, or the refusal of a directory that
stands in no repository and outside of the output directory. -/
def Restricts {α : Type} (s : Surroundings) (directory : RootedPath)
    (strict permissive : Except Error α) : Prop :=
  strict = permissive ∨ ∃ path, s.lookup directory.text = .error (.notAGitRepo path) ∧
    directory.isInside s.outputDir = false ∧ strict = .error (.notAGitRepo path)

section Restricts

variable {s : Surroundings} {directory : RootedPath}

theorem Restricts.refl {α : Type} (x : Except Error α) : Restricts s directory x x := .inl rfl

theorem Restricts.bind {α β : Type} {x y : Except Error α} {f g : α → Except Error β}
    (hx : Restricts s directory x y) (hf : ∀ a, Restricts s directory (f a) (g a)) :
    Restricts s directory (x >>= f) (y >>= g) := by
  rcases hx with rfl | ⟨path, hlookup, hinside, rfl⟩
  · cases x with
    | error e => exact .refl _
    | ok a => exact hf a
  · exact .inr ⟨path, hlookup, hinside, rfl⟩

theorem restricts_provenance : Restricts s directory ((s.withMode .strict).provenanceOf directory)
    ((s.withMode .permissive).provenanceOf directory) := by
  unfold Surroundings.provenanceOf
  show Restricts s directory
    (provenance (s.lookup directory.text) .strict (directory.isInside s.outputDir))
    (provenance (s.lookup directory.text) .permissive (directory.isInside s.outputDir))
  cases hlookup : s.lookup directory.text with
  | ok c => exact .refl _
  | error e =>
    cases e with
    | notAGitRepo path =>
      cases hinside : directory.isInside s.outputDir with
      | true => exact .refl _
      | false => exact .inr ⟨path, hlookup, hinside, rfl⟩
    | _ => exact .refl _

theorem restricts_cargo : Restricts s directory (Cargo.resolve (s.withMode .strict) directory)
    (Cargo.resolve (s.withMode .permissive) directory) := by
  refine .bind (.refl _) fun manifestPath => ?_
  refine .bind (.refl _) fun manifest => ?_
  refine .bind (.refl _) fun identity => ?_
  refine .bind (.refl _) fun lockPath => ?_
  refine .bind (.refl _) fun lock => ?_
  refine .bind (.refl _) fun crates => ?_
  refine .bind restricts_provenance fun checkout => ?_
  exact .refl _

theorem restricts_pip {request : PackageRequest} :
    Restricts s directory (Pip.resolve (s.withMode .strict) directory request)
      (Pip.resolve (s.withMode .permissive) directory request) := by
  refine .bind (.refl _) fun identity => ?_
  refine .bind restricts_provenance fun checkout => ?_
  exact .refl _

theorem restricts_package {request : PackageRequest}
    (h : s.sourceDir.join s.tree request.path = .ok directory) :
    Restricts s directory (resolvePackage (s.withMode .strict) request)
      (resolvePackage (s.withMode .permissive) request) := by
  have hjoin (m : Mode) :
      (s.withMode m).sourceDir.join (s.withMode m).tree request.path = .ok directory := h
  cases he : request.ecosystem with
  | cargo =>
    rw [resolvePackage_cargo (hjoin _) he, resolvePackage_cargo (hjoin _) he]
    exact restricts_cargo
  | pip =>
    rw [resolvePackage_pip (hjoin _) he, resolvePackage_pip (hjoin _) he]
    exact restricts_pip

end Restricts

/-! ## What a checkout leaves in a resolution -/

section Checkout

variable {s : Surroundings} {directory : RootedPath} {request : PackageRequest} {r : Resolution}

theorem provenanceOf_of_resolvePackage (h : resolvePackage s request = .ok r)
    (hdirectory : s.sourceDir.join s.tree request.path = .ok directory) :
    s.provenanceOf directory = .ok r.checkout := by
  cases he : request.ecosystem with
  | cargo =>
    rw [resolvePackage_cargo hdirectory he] at h
    obtain ⟨_, _, _, _, h⟩ := Cargo.resolves_of_resolve h
    exact h.checkout
  | pip =>
    rw [resolvePackage_pip hdirectory he] at h
    obtain ⟨_, _, _, h⟩ := Pip.resolves_of_resolve h
    exact h.checkout

/-- Whether a component is that of a package which stands in a checkout, as its package URL says. -/
def Component.StandsIn (c : Checkout) (e : Ecosystem) (name : String) (version : Option String)
    (d : Component) : Prop :=
  PackageUrl.parse? d.purl =
    some ⟨e.purlType, PackageUrl.normalName e.purlType name, version.filter (· ≠ ""),
    [("vcs_url", "git+" ++ c.remoteUrl ++ "@" ++ c.commit)]⟩

theorem Component.standsIn_ofLocal (c : Checkout) (e : Ecosystem) (name : String)
    (version : Option String) : StandsIn c e name version (ofLocal e name version (some c)) :=
  parse?_ofLocal e name version (some c)

/-- Whether a resolution records a checkout: in itself, in the first component, which is that of
the package, and in that of each crate of its lock file without a source. -/
structure Resolution.Records (s : Surroundings) (directory : RootedPath) (c : Checkout)
    (r : Resolution) : Prop where
  checkout : r.checkout = some c
  package : ∃ d version,
    r.components.head? = some d ∧ d.StandsIn c r.ecosystem r.identity.name version
  crates : r.ecosystem = .cargo →
    ∃ lockPath crates, Cargo.Reads s directory r.identity lockPath crates ∧
    ∀ crate ∈ crates, crate.source = none →
      ∃ d ∈ r.components, d.StandsIn c .cargo crate.name (some crate.version)

theorem Cargo.records_of_resolve {c : Checkout} (h : Cargo.resolve s directory = .ok r)
    (hcheckout : r.checkout = some c) : r.Records s directory c := by
  obtain ⟨_, _, _, _, hresolves⟩ := resolves_of_resolve h
  obtain ⟨lockPath, crates, entries, hreads, -, hentries, haccounts⟩ := Cargo.accounted_of_resolve h
  rw [hcheckout] at hentries haccounts
  refine ⟨hcheckout, ⟨_, mainVersion r.identity crates, haccounts.head, ?_⟩,
    fun _ => ⟨lockPath, crates, hreads, ?_⟩⟩
  · rw [hresolves.ecosystem]
    exact Component.standsIn_ofLocal _ _ _ _
  · intro crate hcrate hsource
    obtain ⟨e, he, hcomponent⟩ := exists_of_mem_forall₂ hentries hcrate
    have hpurl : e.purl ∈ r.components.map Component.purl :=
      (haccounts.mem_iff _).2 (.inr ⟨e, he, rfl⟩)
    obtain ⟨d, hd, hd_purl⟩ := List.mem_map.1 hpurl
    refine ⟨d, hd, ?_⟩
    unfold Component.StandsIn
    rw [hd_purl]
    cases hcomponent with
    | here => exact Component.standsIn_ofLocal _ _ _ _
    | fetched _ hgives =>
      -- a crate without a source is not fetched
      have hfetched := isFetched_of_gives hgives
      rw [isFetched_of_here (by rw [hsource]; rfl)] at hfetched
      cases hfetched

theorem Pip.records_of_resolve {c : Checkout} (h : Pip.resolve s directory request = .ok r)
    (hcheckout : r.checkout = some c) : r.Records s directory c := by
  obtain ⟨_, _, _, hresolves⟩ := resolves_of_resolve h
  obtain ⟨_, -, -, -, haccounts⟩ := Pip.accounted_of_resolve h
  rw [hcheckout] at haccounts
  refine ⟨hcheckout, ⟨_, r.identity.version, haccounts.head, ?_⟩, ?_⟩
  · rw [hresolves.ecosystem]
    exact Component.standsIn_ofLocal _ _ _ _
  · intro hcargo
    rw [hresolves.ecosystem] at hcargo
    cases hcargo

theorem records_of_resolvePackage {c : Checkout} (h : resolvePackage s request = .ok r)
    (hdirectory : s.sourceDir.join s.tree request.path = .ok directory)
    (hcheckout : r.checkout = some c) : r.Records s directory c := by
  cases he : request.ecosystem with
  | cargo =>
    rw [resolvePackage_cargo hdirectory he] at h
    exact Cargo.records_of_resolve h hcheckout
  | pip =>
    rw [resolvePackage_pip hdirectory he] at h
    exact Pip.records_of_resolve h hcheckout

end Checkout

/-! ## Both modes -/

/-- In strict mode only a checkout gives a provenance to a directory outside of the output
directory. -/
theorem checkout_of_strict {lookup : Except Error Checkout} {found : Option Checkout}
    (h : provenance lookup .strict false = .ok found) : ∃ c, lookup = .ok c ∧ found = some c := by
  unfold provenance at h
  split at h
  · next c => exact ⟨c, rfl, (Except.ok.inj h).symm⟩
  · rw [if_neg (by simp)] at h
    cases h
  · cases h

section BothModes

variable {s : Surroundings} {directory : RootedPath} {request : PackageRequest} {r : Resolution}

theorem join_of_resolvePackage {m : Mode} (h : resolvePackage (s.withMode m) request = .ok r) :
    ∃ directory, s.sourceDir.join s.tree request.path = .ok directory := by
  obtain ⟨directory, hdirectory, -⟩ := ok_of_bind h
  exact ⟨directory, hdirectory⟩

theorem checkout_of_strictPackage (h : resolvePackage (s.withMode .strict) request = .ok r)
    (hdirectory : s.sourceDir.join s.tree request.path = .ok directory)
    (hinside : directory.isInside s.outputDir = false) :
    ∃ c, s.lookup directory.text = .ok c ∧ r.checkout = some c := by
  apply checkout_of_strict
  rw [← hinside]
  exact provenanceOf_of_resolvePackage h hdirectory

/-- What permissive mode resolves strict mode refuses exactly where its directory stands in no
repository and outside of the output directory. -/
theorem strict_refuses_iff (h : resolvePackage (s.withMode .permissive) request = .ok r)
    (hdirectory : s.sourceDir.join s.tree request.path = .ok directory) (path : String) :
    resolvePackage (s.withMode .strict) request = .error (.notAGitRepo path) ↔
      s.lookup directory.text = .error (.notAGitRepo path) ∧
      directory.isInside s.outputDir = false := by
  rcases restricts_package hdirectory with heq | ⟨path', hlookup, hinside, hrefused⟩
  · rw [h] at heq
    constructor
    · intro hrefused
      rw [heq] at hrefused
      cases hrefused
    · rintro ⟨hlookup, hinside⟩
      obtain ⟨c, hfound, -⟩ := checkout_of_strictPackage heq hdirectory hinside
      rw [hlookup] at hfound
      cases hfound
  · rw [hrefused, hlookup]
    simp [hinside]

end BothModes

/-- What strict mode resolves permissive mode resolves to the same. What permissive mode resolves
strict mode does too, or it refuses it as no repository, which it does exactly where the lookup
found none and the directory is outside of the output directory. And what strict mode resolves
outside of the output directory records the checkout that the lookup found. -/
theorem strict_only_removes (s : Surroundings) (request : PackageRequest) :
    (∀ r, resolvePackage (s.withMode .strict) request = .ok r →
      resolvePackage (s.withMode .permissive) request = .ok r) ∧
    (∀ r, resolvePackage (s.withMode .permissive) request = .ok r →
      ∃ directory, s.sourceDir.join s.tree request.path = .ok directory ∧
        (resolvePackage (s.withMode .strict) request = .ok r ∨
          ∃ path, resolvePackage (s.withMode .strict) request = .error (.notAGitRepo path)) ∧
        ∀ path, resolvePackage (s.withMode .strict) request = .error (.notAGitRepo path) ↔
          s.lookup directory.text = .error (.notAGitRepo path) ∧
            directory.isInside s.outputDir = false) ∧
    ∀ r directory, resolvePackage (s.withMode .strict) request = .ok r →
      s.sourceDir.join s.tree request.path = .ok directory →
      directory.isInside s.outputDir = false →
        ∃ c, s.lookup directory.text = .ok c ∧ r.Records (s.withMode .strict) directory c := by
  refine ⟨?_, ?_, ?_⟩
  · intro r h
    obtain ⟨directory, hdirectory⟩ := join_of_resolvePackage h
    rcases restricts_package hdirectory with heq | ⟨path, -, -, hrefused⟩
    · rw [← heq, h]
    · rw [h] at hrefused
      cases hrefused
  · intro r h
    obtain ⟨directory, hdirectory⟩ := join_of_resolvePackage h
    refine ⟨directory, hdirectory, ?_, strict_refuses_iff h hdirectory⟩
    rcases restricts_package hdirectory with heq | ⟨path, -, -, hrefused⟩
    · exact .inl (heq.trans h)
    · exact .inr ⟨path, hrefused⟩
  · intro r directory h hdirectory hinside
    obtain ⟨c, hlookup, hcheckout⟩ := checkout_of_strictPackage h hdirectory hinside
    exact ⟨c, hlookup, records_of_resolvePackage h hdirectory hcheckout⟩

def knownOrigin : Checkout := ⟨some "h", "ssh://h/app", "c0"⟩

/-- In a checkout both modes resolve the package with a crate of each kind to the same, which
records the checkout; where no repository is found only permissive mode does. -/
theorem strict_only_removes_kinds :
    let known (_ : String) : Except Error Checkout := .ok knownOrigin
    let outside (place : String) : Except Error Checkout := .error (.notAGitRepo place)
    let checkedOut := Cargo.crateSurroundings kindsManifest kindsLock .strict known
    let unknown := Cargo.crateSurroundings kindsManifest kindsLock .permissive outside
    let request := PackageRequest.simple .cargo "."
    (resolvePackage (checkedOut.withMode .strict) request =
      .ok (kindsResolution (some knownOrigin)) ∧
      resolvePackage (checkedOut.withMode .permissive) request =
        .ok (kindsResolution (some knownOrigin)) ∧
      ∃ c, known "/src" = .ok c ∧
        (kindsResolution (some knownOrigin)).Records (checkedOut.withMode .strict)
          ⟨["src"], ["src"]⟩ c) ∧
    resolvePackage (unknown.withMode .permissive) request = .ok (kindsResolution none) ∧
      resolvePackage (unknown.withMode .strict) request = .error (.notAGitRepo "/src") := by
  intro known outside checkedOut unknown request
  have hknown : resolvePackage (checkedOut.withMode .strict) request =
      .ok (kindsResolution (some knownOrigin)) :=
    resolvePackage_kinds rfl
  have hunknown :
      resolvePackage (unknown.withMode .permissive) request = .ok (kindsResolution none) :=
    resolvePackage_kinds rfl
  obtain ⟨hsame, -, hrecords⟩ := strict_only_removes checkedOut request
  obtain ⟨-, hrefused, -⟩ := strict_only_removes unknown request
  refine ⟨⟨hknown, hsame _ hknown,
    hrecords _ _ hknown (Files.Tree.join_point Cargo.crate_sound) rfl⟩, hunknown, ?_⟩
  obtain ⟨directory, hdirectory, -, hiff⟩ := hrefused _ hunknown
  obtain rfl := Except.ok.inj (hdirectory.symm.trans (Files.Tree.join_point Cargo.crate_sound))
  exact (hiff _).2 ⟨rfl, rfl⟩

end FetchPlan
