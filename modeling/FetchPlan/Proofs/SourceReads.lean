import FetchPlan.Proofs.Confinement
import FetchPlan.Proofs.RefusableSteps
import FetchPlan.Proofs.TreeAgreement
import FetchPlan.Run

/-!
What the resolution of a package reads. Two trees that agree below the source root, and elsewhere
up to the contents of files, make no difference to it as long as every rooted path is confined
(`resolvePackage_agrees`): no file outside of the source root is read. It rests on
`readText_agrees`: a confined path is read below its root.

What is proved of every well-formed tree: all rooted paths are confined exactly when links that
lead nowhere are written plainly; and where they are, a package is resolved alike in any tree that
differs only in what files outside of the source root hold. The condition is needed: in
`leakyLinks` a join leaves its root.
-/
namespace FetchPlan

open Files Files.Tree

namespace RootedPath

variable {t u : Tree} {root : Place}

theorem follow_agrees (h : AgreesBelow root t u) : follow u = follow t := by
  funext p
  unfold follow
  rw [h.canonical_eq]
  split
  · rfl
  · split
    · cases hw : t.walk false linkLimit [] p with
      | error e => rw [h.walk_error hw]
      | ok r =>
        cases r with
        | missing d name => rw [h.walk_missing hw]
        | found q e =>
          obtain ⟨e', hu, hshape⟩ := h.walk_found hw
          rw [hu]
          cases e with
          | link target => cases e' <;> cases hshape; rfl
          | directory => cases e' <;> cases hshape; rfl
          | file _ =>
            cases e' with
            | file _ => rfl
            | directory | link _ => cases hshape
    · rfl

theorem resolve_agrees (h : AgreesBelow root t u) : resolve u = resolve t := by
  have hstep : step u = step t := by
    funext p part
    rw [step, step, follow_agrees h]
  funext path
  rw [resolve, resolve, hstep, h.working]

theorem join_agrees (h : AgreesBelow root t u) : RootedPath.join u = RootedPath.join t := by
  unfold RootedPath.join
  rw [resolve_agrees h]

theorem reRoot_agrees (h : AgreesBelow root t u) : RootedPath.reRoot u = RootedPath.reRoot t := by
  unfold RootedPath.reRoot
  rw [join_agrees h]

theorem leads_of_text {p q : Place} (hp : ∀ name ∈ p, IsName name)
    (h : Leads t [] (parts (Place.text p)) q) : Leads t [] p q := by
  by_cases hnil : p = []
  · subst hnil
    exact leads_of_still rfl (leads_of_still rfl h)
  · rw [parts_text hnil fun name hn => (hp name hn).noSlash] at h
    exact leads_of_still rfl h

/-- What is read at a confined path lies below its root. -/
theorem readText_agrees {r : RootedPath} (h : AgreesBelow r.root t u)
    (hp : ∀ name ∈ r.path, IsName name) (hc : r.Confined t) :
    u.readText r.text = t.readText r.text := by
  have hwalk : u.walk true linkLimit [] (parts r.text) = t.walk true linkLimit [] (parts r.text) :=
    h.walk_eq fun q hq => hc.leads q (leads_of_text hp hq)
  have hstart : ∀ v : Tree, start v.workingDirectory r.text = [] :=
    fun v => if_pos (isAbsolute_text r.path)
  have hreach : u.reach true r.text = t.reach true r.text := by
    unfold reach
    rw [hstart, hstart, hwalk]
  unfold readText entry
  rw [hreach]

structure Inside (t : Tree) (root : Place) (r : RootedPath) : Prop where
  reachable : Reachable t r
  root_eq : r.root = root

theorem Inside.join {r s : RootedPath} {rel : String} (h : Inside t root r)
    (hs : r.join t rel = .ok s) : Inside t root s :=
  ⟨h.reachable.join hs, (join_eq hs).2.1.trans h.root_eq⟩

end RootedPath

/-! ## Resolving a package -/

theorem bind_agrees {ε α β : Type} {x y : Except ε α} {f g : α → Except ε β} (hx : x = y)
    (hf : ∀ a, y = .ok a → f a = g a) : (x >>= f) = (y >>= g) := by
  subst hx
  cases x with
  | error e => rfl
  | ok a => exact hf a rfl

theorem mapM_agrees {ε α β : Type} {f g : α → Except ε β} : ∀ {xs : List α}, (∀ x ∈ xs, f x = g x) →
    xs.mapM f = xs.mapM g
  | [], _ => rfl
  | x :: xs, h => by
    rw [List.mapM_cons, List.mapM_cons, h x List.mem_cons_self,
      mapM_agrees fun y hy => h y (List.mem_cons_of_mem x hy)]

theorem Pip.inside_of_listingsOf {s : Surroundings} {directory : RootedPath} {root : Place}
    {forBuild : Bool} {usual : String} {files : Option (List String)} {ls : List Pip.Listing}
    (hd : RootedPath.Inside s.tree root directory)
    (h : Pip.listingsOf s directory forBuild usual files = .ok ls) :
    ∀ l ∈ ls, RootedPath.Inside s.tree root l.path := by
  intro l hl
  cases files with
  | some names =>
    obtain ⟨name, -, hname⟩ := exists_of_mem_mapM h hl
    cases hj : directory.join s.tree name with
    | error e => rw [hj] at hname; cases hname
    | ok path =>
      rw [hj] at hname
      obtain rfl := Except.ok.inj hname
      exact hd.join hj
  | none =>
    unfold Pip.listingsOf at h
    cases hj : directory.join s.tree usual with
    | error e => rw [hj] at h; cases h
    | ok path =>
      rw [hj] at h
      obtain rfl := Except.ok.inj h
      obtain rfl := List.mem_singleton.1 hl
      exact hd.join hj

theorem Pip.inside_of_listings {s : Surroundings} {directory : RootedPath} {root : Place}
    {request : PackageRequest} {ls : List Pip.Listing}
    (hd : RootedPath.Inside s.tree root directory) (h : Pip.listings s directory request = .ok ls) :
    ∀ l ∈ ls, RootedPath.Inside s.tree root l.path := by
  unfold Pip.listings at h
  cases hfirst : Pip.listingsOf s directory false Pip.usualFile request.requirementFiles with
  | error e => rw [hfirst] at h; cases h
  | ok first =>
    cases hsecond :
      Pip.listingsOf s directory true Pip.usualBuildFile request.buildRequirementFiles with
    | error e => rw [hfirst, hsecond] at h; cases h
    | ok second =>
      rw [hfirst, hsecond] at h
      obtain rfl := Except.ok.inj h
      intro l hl
      rcases List.mem_append.1 hl with hl | hl
      · exact Pip.inside_of_listingsOf hd hfirst l hl
      · exact Pip.inside_of_listingsOf hd hsecond l hl

section Agreement

variable {s : Surroundings} {u : Tree} {root : Place}
variable (ht : s.tree.Sound) (hlinks : s.tree.LinksReadPlainly) (h : AgreesBelow root s.tree u)
include ht hlinks h

theorem readText_inside {p : RootedPath} (hp : RootedPath.Inside s.tree root p) :
    u.readText p.text = s.tree.readText p.text := by
  obtain ⟨hr, rfl⟩ := hp
  exact RootedPath.readText_agrees h (hr.steady ht hlinks).named (hr.confined ht hlinks)

theorem Surroundings.readText_agrees {p : RootedPath} (hp : RootedPath.Inside s.tree root p) :
    Surroundings.readText { s with tree := u } p = s.readText p := by
  show (u.readText p.text).mapError _ = _
  rw [readText_inside ht hlinks h hp]
  rfl

theorem Surroundings.readOptional_agrees {p : RootedPath} (hp : RootedPath.Inside s.tree root p) :
    Surroundings.readOptional { s with tree := u } p = s.readOptional p := by
  unfold Surroundings.readOptional
  rw [readText_inside ht hlinks h hp]

theorem Cargo.sanitizedConfig_agrees {directory : RootedPath}
    (hd : RootedPath.Inside s.tree root directory) : ∀ names : List String,
    Cargo.sanitizedConfig { s with tree := u } directory names =
      Cargo.sanitizedConfig s directory names
  | [] => rfl
  | name :: names => by
    unfold Cargo.sanitizedConfig
    refine bind_agrees (by rw [RootedPath.join_agrees h]) fun path hpath => ?_
    refine bind_agrees (Surroundings.readOptional_agrees ht hlinks h (hd.join hpath))
      fun text _ => ?_
    cases text with
    | none => exact Cargo.sanitizedConfig_agrees hd names
    | some text => rfl

theorem Cargo.resolve_agrees {directory : RootedPath}
    (hd : RootedPath.Inside s.tree root directory) :
    Cargo.resolve { s with tree := u } directory = Cargo.resolve s directory := by
  have hentry : Cargo.entryOf { s with tree := u } = Cargo.entryOf s := by
    funext deps lockFile checkout crate
    unfold Cargo.entryOf
    rw [RootedPath.join_agrees h]
  unfold Cargo.resolve
  rw [RootedPath.join_agrees h, RootedPath.reRoot_agrees h, hentry,
    Cargo.sanitizedConfig_agrees ht hlinks h hd]
  refine bind_agrees rfl fun manifest hmanifest => ?_
  refine bind_agrees (Surroundings.readText_agrees ht hlinks h (hd.join hmanifest)) fun text _ => ?_
  refine bind_agrees rfl fun identity _ => ?_
  refine bind_agrees rfl fun lock hlock => ?_
  refine bind_agrees (Surroundings.readText_agrees ht hlinks h (hd.join hlock)) fun text _ => ?_
  rfl

theorem Pip.identityOf_agrees {directory : RootedPath}
    (hd : RootedPath.Inside s.tree root directory) :
    Pip.identityOf { s with tree := u } directory = Pip.identityOf s directory := by
  unfold Pip.identityOf
  refine bind_agrees (by rw [RootedPath.join_agrees h]) fun path hpath => ?_
  exact bind_agrees (Surroundings.readOptional_agrees ht hlinks h (hd.join hpath)) fun _ _ => rfl

theorem Pip.artifactsOf_agrees {deps : RootedPath} {l : Pip.Listing}
    (hl : RootedPath.Inside s.tree root l.path) :
    Pip.artifactsOf { s with tree := u } deps l = Pip.artifactsOf s deps l := by
  have hread : l.read { s with tree := u } = l.read s := by
    unfold Pip.Listing.read
    rw [Surroundings.readText_agrees ht hlinks h hl,
      Surroundings.readOptional_agrees ht hlinks h hl]
  have hartifact : Pip.checkedArtifact { s with tree := u } = Pip.checkedArtifact s := by
    funext deps file what forBuild r
    unfold Pip.checkedArtifact Pip.artifactOf
    rw [RootedPath.join_agrees h]
  unfold Pip.artifactsOf
  rw [hread, hartifact]

theorem Pip.resolve_agrees {directory : RootedPath} (hd : RootedPath.Inside s.tree root directory)
    (request : PackageRequest) :
    Pip.resolve { s with tree := u } directory request = Pip.resolve s directory request := by
  have hlistings :
      Pip.listings { s with tree := u } directory request = Pip.listings s directory request := by
    unfold Pip.listings Pip.listingsOf
    rw [RootedPath.join_agrees h]
  unfold Pip.resolve
  rw [Pip.identityOf_agrees ht hlinks h hd, RootedPath.reRoot_agrees h, hlistings]
  refine bind_agrees rfl fun identity _ => ?_
  refine bind_agrees rfl fun checkout _ => ?_
  refine bind_agrees rfl fun deps _ => ?_
  refine bind_agrees rfl fun files hfiles => ?_
  refine bind_agrees (mapM_agrees fun l hl => ?_) fun _ _ => rfl
  exact Pip.artifactsOf_agrees ht hlinks h (Pip.inside_of_listings hd hfiles l hl)

/-- The resolution of a package depends on no file outside of the source root. -/
theorem resolvePackage_agrees (hs : RootedPath.Reachable s.tree s.sourceDir)
    (hroot : s.sourceDir.root = root) (request : PackageRequest) :
    resolvePackage { s with tree := u } request = resolvePackage s request := by
  unfold resolvePackage
  refine bind_agrees (by rw [RootedPath.join_agrees h]) fun directory hdir => ?_
  have hd := RootedPath.Inside.join ⟨hs, hroot⟩ hdir
  cases request.ecosystem with
  | cargo => exact Cargo.resolve_agrees ht hlinks h hd
  | pip => exact Pip.resolve_agrees ht hlinks h hd request

end Agreement

/-! ## What rooted paths guarantee -/

/-- The rooted paths of a tree are confined, whatever roots are declared and whatever is joined to
them, exactly when every link that leads nowhere is written as a place that stands for itself; then
the resolution of a package reads no file outside of the source root. -/
theorem confined_iff_linksReadPlainly (t : Tree) (ht : t.Sound) :
    ((∀ r, RootedPath.Reachable t r → r.Confined t) ↔ t.LinksReadPlainly) ∧
    (t.LinksReadPlainly → ∀ (s : Surroundings) (u : Tree) (request : PackageRequest), s.tree = t →
      RootedPath.Reachable t s.sourceDir → AgreesBelow s.sourceDir.root t u →
      resolvePackage { s with tree := u } request = resolvePackage s request) := by
  refine ⟨⟨RootedPath.linksReadPlainly_of_confined ht, fun hlinks r hr => hr.confined ht hlinks⟩,
    ?_⟩
  rintro hlinks s u request rfl hs h
  exact resolvePackage_agrees ht hlinks h hs rfl request

/-! ## A source directory and the file beside it -/

def neighbours (inside : List (Place × Entry)) (secret : List UInt8) : Tree :=
  ⟨(["src"], .directory) :: (["secret.txt"], .file secret) :: inside, []⟩

theorem neighbours_agrees (inside : List (Place × Entry)) (secret other : List UInt8) :
    AgreesBelow ["src"] (neighbours inside secret) (neighbours inside other) := by
  have hother : ∀ p, p ≠ ["secret.txt"] →
      (neighbours inside other).lookup p = (neighbours inside secret).lookup p := by
    intro p hp
    have hp : (p == ["secret.txt"]) = false := by simpa using hp
    simp [neighbours, Tree.lookup, List.lookup_cons, hp]
  refine ⟨rfl, fun p hp => hother p ?_, fun p => ?_⟩
  · rintro rfl
    exact absurd hp (by decide)
  · by_cases hp : p = ["secret.txt"]
    · subst hp
      rfl
    · rw [hother p hp]

theorem foldlM_source {inside : List (Place × Entry)} {secret : List UInt8}
    (ht : (neighbours inside secret).Sound) :
    ["src"].foldlM (RootedPath.step (neighbours inside secret)) [] = .ok ["src"] :=
  RootedPath.foldlM_directories ht ["src"] [] rfl (by simp) (by decide)

theorem new_source {inside : List (Place × Entry)} {secret : List UInt8}
    (ht : (neighbours inside secret).Sound) :
    RootedPath.new (neighbours inside secret) "/src" = .ok ⟨["src"], ["src"]⟩ := by
  have hresolve : RootedPath.resolve (neighbours inside secret) "/src" = .ok ["src"] :=
    foldlM_source ht
  rw [RootedPath.new, hresolve]

/-- A lock file that is a link to a file which is not there yet. -/
def awaitedLock : List (Place × Entry) := [(["src", "Cargo.lock"], .link "locks/../later.lock")]

theorem awaitedLock_sound : (neighbours awaitedLock [1]).Sound :=
  sound_of_nodes (by decide) (by decide) rfl

theorem awaitedLock_linksReadPlainly : (neighbours awaitedLock [1]).LinksReadPlainly := by
  have hlink : ∀ p target, (neighbours awaitedLock [1]).lookup p = some (.link target) →
      p = ["src", "Cargo.lock"] ∧ target = "locks/../later.lock" := by
    intro p target hl
    have hp : p ≠ [] := by
      rintro rfl
      cases hl
    simpa [neighbours, awaitedLock] using mem_of_lookup hl hp
  intro p target hl _
  obtain ⟨rfl, rfl⟩ := hlink p target hl
  have hplace : placePlainly ["src"] "locks/../later.lock" = ["src", "later.lock"] := by decide
  show (neighbours awaitedLock [1]).Stands (placePlainly ["src"] "locks/../later.lock")
  rw [hplace]
  refine LinkFree.stands (fun q hq target hl => ?_) (by decide)
  obtain ⟨rfl, -⟩ := hlink q target hl
  exact absurd hq (by decide)

theorem confined_with_awaitedLock :
    (∀ r, RootedPath.Reachable (neighbours awaitedLock [1]) r →
      r.Confined (neighbours awaitedLock [1])) ∧
    resolvePackage ⟨neighbours awaitedLock [2], ⟨["src"], ["src"]⟩, ⟨["out"], ["out"]⟩, .strict,
        fun location => .error (.notAGitRepo location)⟩ (.simple .cargo ".") =
      resolvePackage ⟨neighbours awaitedLock [1], ⟨["src"], ["src"]⟩, ⟨["out"], ["out"]⟩, .strict,
        fun location => .error (.notAGitRepo location)⟩ (.simple .cargo ".") := by
  obtain ⟨hconfined, hreads⟩ := confined_iff_linksReadPlainly _ awaitedLock_sound
  exact ⟨hconfined.2 awaitedLock_linksReadPlainly,
    hreads awaitedLock_linksReadPlainly ⟨neighbours awaitedLock [1], _, _, _, _⟩ _ _ rfl
      (.new (new_source awaitedLock_sound)) (neighbours_agrees awaitedLock [1] [2])⟩

/-- A link that leads out of the source directory, and one that reads as that link. -/
def leakyLinks : List (Place × Entry) :=
  [(["src", "y"], .link "../secret.txt"), (["src", "x"], .link "missing/../y")]

theorem leakyLinks_sound : (neighbours leakyLinks [1]).Sound :=
  sound_of_nodes (by decide) (by decide) rfl

theorem canonical_leaky :
    (neighbours leakyLinks [1]).canonical ["src", "y"] = .ok ["secret.txt"] := by
  have hsrc : (neighbours leakyLinks [1]).lookup ["src"] = some .directory := rfl
  have hy : (neighbours leakyLinks [1]).lookup ["src", "y"] = some (.link "../secret.txt") := rfl
  have hsecret : (neighbours leakyLinks [1]).lookup ["secret.txt"] = some (.file [1]) := rfl
  have hparts : parts "../secret.txt" = ["..", "secret.txt"] := rfl
  have hstart : start ["src"] "../secret.txt" = ["src"] := rfl
  have hstill : ∀ name ∈ ["src", "y", "..", "secret.txt"], isStill name = false := by decide
  have hshort : ∀ name ∈ ["src", "y", "secret.txt"], ¬ 255 < name.utf8ByteSize := by decide
  simp only [List.forall_mem_cons] at hstill hshort
  simp [canonical, walk, linkLimit, nameLimit, lookup_nil, hsrc, hy, hsecret, hparts,
    hstart, hstill, hshort]

theorem canonical_missing :
    (neighbours leakyLinks [1]).canonical ["src", "x"] = .error .notFound := by
  have hsrc : (neighbours leakyLinks [1]).lookup ["src"] = some .directory := rfl
  have hx : (neighbours leakyLinks [1]).lookup ["src", "x"] = some (.link "missing/../y") := rfl
  have hmissing : (neighbours leakyLinks [1]).lookup ["src", "missing"] = none := rfl
  have hparts : parts "missing/../y" = ["missing", "..", "y"] := rfl
  have hstart : start ["src"] "missing/../y" = ["src"] := rfl
  have hstill : ∀ name ∈ ["src", "x", "missing"], isStill name = false := by decide
  have hshort : ∀ name ∈ ["src", "x", "missing"], ¬ 255 < name.utf8ByteSize := by decide
  simp only [List.forall_mem_cons] at hstill hshort
  simp [canonical, walk, linkLimit, nameLimit, lookup_nil, hsrc, hx, hmissing, hparts,
    hstart, hstill, hshort]

theorem join_of_leakyLinks : ∃ root path : RootedPath,
    RootedPath.new (neighbours leakyLinks [1]) "/src" = .ok root ∧
    root.join (neighbours leakyLinks [1]) "x" = .ok path ∧
    (neighbours leakyLinks [1]).canonical path.path = .ok ["secret.txt"] ∧
    ¬ path.Confined (neighbours leakyLinks [1]) := by
  have hlink :
      (neighbours leakyLinks [1]).lookup (["src"] ++ ["x"]) = some (.link "missing/../y") := rfl
  have hstep : RootedPath.step (neighbours leakyLinks [1]) ["src"] "x" = .ok ["src", "y"] :=
    RootedPath.step_link leakyLinks_sound hlink canonical_missing
  have hresolve : RootedPath.resolve (neighbours leakyLinks [1]) "/src/x" = .ok ["src", "y"] := by
    show (["src"] ++ ["x"]).foldlM (RootedPath.step (neighbours leakyLinks [1])) [] = _
    rw [List.foldlM_append, foldlM_source leakyLinks_sound]
    show ["x"].foldlM (RootedPath.step (neighbours leakyLinks [1])) ["src"] = _
    rw [List.foldlM_cons, hstep]
    rfl
  have hjoin : RootedPath.join (neighbours leakyLinks [1]) ⟨["src"], ["src"]⟩ "x" =
      .ok ⟨["src"], ["src", "y"]⟩ := by
    have hcandidate : joinText (Place.text ["src"]) "x" = "/src/x" := by rfl
    unfold RootedPath.join
    simp only [hcandidate, hresolve]
    rfl
  refine ⟨_, _, new_source leakyLinks_sound, hjoin, canonical_leaky, fun h => ?_⟩
  exact absurd (h.canonical _ canonical_leaky) (by decide)

end FetchPlan
