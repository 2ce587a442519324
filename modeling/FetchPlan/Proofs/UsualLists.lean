import FetchPlan.Proofs.DependencyAccounts

/-!
Requirements files that a request does not name. The usual files are read as if the request named
those of them that are there (`resolve_spelledOut`): a usual file that cannot be resolved or read
is refused like a named one, and one that is missing adds nothing. A file that a request names has
to be there, and a package that is resolved has an artifact for each of its requirements
(`usual_lists_agree`).

What is proved in any surroundings: a request without a list is resolved as if it gave the usual
files that are there; a file that has to be there and is read has all its requirements resolved;
and one that is missing or cannot be read refuses the package, with that failure when all before
it is well.
-/
namespace FetchPlan.Pip

/-! ## Files that are there -/

/-- Whether reading a file of a package reports that it is not there. -/
def isMissing (s : Surroundings) (directory : RootedPath) (file : String) : Bool :=
  match directory.join s.tree file with
  | .ok path => s.tree.readText path.text = .error .notFound
  | .error _ => false

/-- A usual file as a list that a request may give: without it, if reading it reports that it is
not there. -/
def foundFiles (s : Surroundings) (directory : RootedPath) (usual : String) : List String :=
  [usual].filter fun file => !isMissing s directory file

variable {s : Surroundings} {directory deps : RootedPath}

theorem isMissing_iff {file : String} : isMissing s directory file = true ↔
    ∃ path, directory.join s.tree file = .ok path ∧
      s.tree.readText path.text = .error .notFound := by
  unfold isMissing
  cases directory.join s.tree file <;> simp

theorem foundFiles_of_missing {usual : String} (h : isMissing s directory usual = true) :
    foundFiles s directory usual = [] := by
  simp [foundFiles, h]

theorem foundFiles_of_found {usual : String} (h : isMissing s directory usual = false) :
    foundFiles s directory usual = [usual] := by
  simp [foundFiles, h]

/-! ## The artifacts of listed files -/

/-- The artifacts of listed files, file by file. -/
def gather (s : Surroundings) (deps : RootedPath) (ls : List Listing) :
    Except Error (List Artifact) :=
  List.flatten <$> ls.mapM (artifactsOf s deps)

theorem gather_nil : gather s deps [] = .ok [] := rfl

theorem gather_singleton (l : Listing) : gather s deps [l] = artifactsOf s deps l := by
  rw [gather, List.mapM_cons, List.mapM_nil]
  cases artifactsOf s deps l with
  | error e => rfl
  | ok as => exact congrArg Except.ok (by simp)

theorem gather_append (ls ms : List Listing) : gather s deps (ls ++ ms) = (do
    let as ← gather s deps ls
    let bs ← gather s deps ms
    pure (as ++ bs)) := by
  rw [gather, gather, gather, List.mapM_append]
  cases ls.mapM (artifactsOf s deps) with
  | error e => rfl
  | ok as =>
    cases ms.mapM (artifactsOf s deps) with
    | error e => rfl
    | ok bs => exact congrArg Except.ok List.flatten_append

/-- Whether two ways to name files come to the same: both are refused alike, or the files they name
have the same artifacts, or the same refusal. -/
inductive ComesToSame (s : Surroundings) :
    Except Error (List Listing) → Except Error (List Listing) → Prop where
  | refused (e : Error) : ComesToSame s (.error e) (.error e)
  | listed {ls ms : List Listing} (h : ∀ deps, gather s deps ls = gather s deps ms) :
    ComesToSame s (.ok ls) (.ok ms)

theorem ComesToSame.refl : ∀ x : Except Error (List Listing), ComesToSame s x x
  | .error e => .refused e
  | .ok _ => .listed fun _ => rfl

theorem ComesToSame.append {x x' y y' : Except Error (List Listing)} (hx : ComesToSame s x x')
    (hy : ComesToSame s y y') :
    ComesToSame s (do let ls ← x; let ms ← y; pure (ls ++ ms))
      (do let ls ← x'; let ms ← y'; pure (ls ++ ms)) := by
  cases hx with
  | refused e => exact .refused e
  | listed hls =>
    cases hy with
    | refused e => exact .refused e
    | listed hms =>
      refine .listed fun deps => ?_
      rw [gather_append, gather_append, hls, hms]

theorem ComesToSame.bind_gather {α : Type} {x y : Except Error (List Listing)}
    (h : ComesToSame s x y) (deps : RootedPath) (f : List Artifact → Except Error α) :
    (do let ls ← x; let as ← gather s deps ls; f as) =
    (do let ls ← y; let as ← gather s deps ls; f as) := by
  cases h with
  | refused e => rfl
  | listed h =>
    show (gather s deps _ >>= f) = (gather s deps _ >>= f)
    rw [h deps]

def resolutionOf (directory : RootedPath) (identity : Identity) (checkout : Option Checkout)
    (artifacts : List Artifact) : Resolution where
  ecosystem := .pip
  path := directory.subpath
  identity := identity
  checkout := checkout
  artifacts := artifacts
  components := Component.firstOfEach
    (Component.ofLocal .pip identity.name identity.version checkout ::
      artifacts.map fun a => Component.ofArtifact .pip a none)
  sanitizedConfig := none

theorem resolve_eq (s : Surroundings) (directory : RootedPath) (request : PackageRequest) :
    resolve s directory request = (do
      let identity ← identityOf s directory
      let checkout ← s.provenanceOf directory
      let deps ← s.outputDir.reRoot s.tree depsDir
      let files ← listings s directory request
      let artifacts ← gather s deps files
      pure (resolutionOf directory identity checkout artifacts)) := by
  simp only [gather, bind_map_left]
  rfl

theorem resolve_of_comesToSame {request request' : PackageRequest}
    (h : ComesToSame s (listings s directory request) (listings s directory request')) :
    resolve s directory request = resolve s directory request' := by
  simp only [resolve_eq, h.bind_gather]

/-! ## Usual files as a list -/

theorem artifactsOf_required {path : RootedPath} (h : s.tree.readText path.text ≠ .error .notFound)
    (forBuild : Bool) :
    artifactsOf s deps ⟨path, forBuild, false⟩ = artifactsOf s deps ⟨path, forBuild, true⟩ := by
  have hread :
      (⟨path, forBuild, false⟩ : Listing).read s = (⟨path, forBuild, true⟩ : Listing).read s := by
    unfold Listing.read Surroundings.readOptional Surroundings.readText
    cases htext : s.tree.readText path.text with
    | ok text => rfl
    | error e =>
      have hne : e ≠ .notFound := fun he => h (by rw [htext, he])
      simp [hne, Except.mapError, Functor.map, Except.map]
  unfold artifactsOf
  rw [hread]

theorem artifactsOf_missing {path : RootedPath} (h : s.tree.readText path.text = .error .notFound)
    (forBuild : Bool) : artifactsOf s deps ⟨path, forBuild, false⟩ = .ok [] := by
  have hread : (⟨path, forBuild, false⟩ : Listing).read s = .ok none := by
    unfold Listing.read Surroundings.readOptional
    rw [h]
    rfl
  unfold artifactsOf
  rw [hread]
  rfl

/-- One list of a request comes to the same when a usual file is given instead of left out, as far
as it is there. -/
theorem listingsOf_getD (forBuild : Bool) (usual : String) (files : Option (List String)) :
    ComesToSame s (listingsOf s directory forBuild usual files)
      (listingsOf s directory forBuild usual
        (some (files.getD (foundFiles s directory usual)))) := by
  cases files with
  | some files => exact .refl _
  | none =>
    rw [Option.getD_none]
    -- a missing file is no file of the list and has no artifacts; any other is read as one that
    -- has to be there
    cases hmissing : isMissing s directory usual with
    | true =>
      obtain ⟨path, hpath, hread⟩ := isMissing_iff.1 hmissing
      rw [foundFiles_of_missing hmissing, listingsOf, listingsOf, List.mapM_nil, hpath]
      refine .listed fun deps => ?_
      rw [gather_singleton, artifactsOf_missing hread, gather_nil]
    | false =>
      rw [foundFiles_of_found hmissing, listingsOf, listingsOf, List.mapM_cons, List.mapM_nil]
      cases hpath : directory.join s.tree usual with
      | error e => exact .refused e
      | ok path =>
        have hread : s.tree.readText path.text ≠ .error .notFound := fun hread => by
          rw [isMissing_iff.2 ⟨path, hpath, hread⟩] at hmissing
          cases hmissing
        refine .listed fun deps => ?_
        rw [gather_singleton, artifactsOf_required hread, ← gather_singleton]

/-- A request that gives the usual files, as far as they are there, for the lists that it leaves
out. -/
def spelledOut (s : Surroundings) (directory : RootedPath) (request : PackageRequest) :
    PackageRequest :=
  { request with
    requirementFiles := some (request.requirementFiles.getD (foundFiles s directory usualFile))
    buildRequirementFiles :=
  some (request.buildRequirementFiles.getD (foundFiles s directory usualBuildFile)) }

theorem resolve_spelledOut (s : Surroundings) (directory : RootedPath) (request : PackageRequest) :
    resolve s directory request = resolve s directory (spelledOut s directory request) :=
  resolve_of_comesToSame ((listingsOf_getD _ _ _).append (listingsOf_getD _ _ _))

/-! ## Files that are named -/

/-- Whether a named file was read for a resolution: each requirement that it holds has its
artifact. -/
def HasRead (s : Surroundings) (directory : RootedPath) (n : FileName) (r : Resolution) : Prop :=
  ∃ path text file, directory.join s.tree n.name = .ok path ∧ s.tree.readText path.text = .ok text ∧
    Requirements.parse path.subpath text = .ok file ∧
    ∀ q ∈ file.requirements,
    ∃ a ∈ r.artifacts, (⟨file, path.subpath, n.forBuild, q⟩ : Asked).Gives a

theorem hasRead_of_resolve {request : PackageRequest} {r : Resolution}
    (h : resolve s directory request = .ok r) {n : FileName} (hn : n ∈ fileNames request)
    (hrequired : n.required = true) : HasRead s directory n r := by
  obtain ⟨asked, -, hasks, hgives, -⟩ := accounted_of_resolve h
  obtain ⟨qs, hqs, hfile⟩ := exists_of_mem_forall₂ hasks hn
  cases hfile with
  | missing _ hoptional _ =>
    rw [hrequired] at hoptional
    cases hoptional
  | @file path text file hpath hread hparse =>
    refine ⟨path, text, file, hpath, hread, hparse, fun q hq => ?_⟩
    have hasked : (⟨file, path.subpath, n.forBuild, q⟩ : Asked) ∈ asked.flatten :=
      List.mem_flatten.2 ⟨_, hqs, List.mem_map.2 ⟨q, hq, rfl⟩⟩
    exact exists_of_mem_forall₂ hgives hasked

/-- A package is refused with the first of its files that has to be there and cannot be read. -/
theorem resolve_of_unreadable {request : PackageRequest} {identity : Identity}
    {checkout : Option Checkout} {before after : List Listing} {l : Listing} {e : IoFailure}
    (hidentity : identityOf s directory = .ok identity)
    (hcheckout : s.provenanceOf directory = .ok checkout)
    (hdeps : s.outputDir.reRoot s.tree depsDir = .ok deps)
    (hfiles : listings s directory request = .ok (before ++ l :: after))
    (hbefore : ∀ b ∈ before, ∃ as, artifactsOf s deps b = .ok as) (hrequired : l.required = true)
    (hread : s.tree.readText l.path.text = .error e) :
    resolve s directory request = .error (.io "read file" l.path.text e) := by
  have hl : artifactsOf s deps l = .error (.io "read file" l.path.text e) := by
    unfold artifactsOf Listing.read Surroundings.readText
    rw [hrequired, hread]
    rfl
  have hgathered := mapM_append_error hl after hbefore
  simp only [resolve, hidentity, hcheckout, hdeps, hfiles, hgathered, bind, Except.bind]

/-- A package is resolved, or refused, as if its request gave the usual files that are there for
the lists that it leaves out. When it is resolved, each file that its request names has been read;
when one of them is missing, it is refused, and where all before that is well with the failure to
read the file. -/
theorem usual_lists_agree (s : Surroundings) (directory : RootedPath) (request : PackageRequest) :
    resolve s directory request = resolve s directory (spelledOut s directory request) ∧
      (∀ n ∈ fileNames request, n.required = true →
        (∀ r, resolve s directory request = .ok r → HasRead s directory n r) ∧
          (isMissing s directory n.name = true → ∃ e, resolve s directory request = .error e)) ∧
      ∀ identity checkout deps before l after e, identityOf s directory = .ok identity →
        s.provenanceOf directory = .ok checkout → s.outputDir.reRoot s.tree depsDir = .ok deps →
          listings s directory request = .ok (before ++ l :: after) →
            (∀ b ∈ before, ∃ as, artifactsOf s deps b = .ok as) → l.required = true →
              s.tree.readText l.path.text = .error e →
                resolve s directory request = .error (.io "read file" l.path.text e) := by
  refine ⟨resolve_spelledOut s directory request, fun n hn hrequired => ?_, ?_⟩
  · have hread (r : Resolution) (hr : resolve s directory request = .ok r) :
        HasRead s directory n r :=
      hasRead_of_resolve hr hn hrequired
    refine ⟨hread, fun hmissing => error_of_not_ok fun r hr => ?_⟩
    obtain ⟨path, hpath, hnone⟩ := isMissing_iff.1 hmissing
    obtain ⟨path', text, -, hpath', htext, -⟩ := hread r hr
    obtain rfl := Except.ok.inj (hpath.symm.trans hpath')
    rw [hnone] at htext
    cases htext
  · intro identity checkout deps before l after e hidentity hcheckout hdeps hfiles hbefore
      hrequired hunread
    exact resolve_of_unreadable hidentity hcheckout hdeps hfiles hbefore hrequired hunread

/-! ## A package with one usual file -/

section Usual

open Files Tree

def usualSurroundings (text : String) : Surroundings where
  tree := flat [(usualFile, Text.utf8 text.toList)]
  sourceDir := ⟨["src"], ["src"]⟩
  outputDir := ⟨["out"], ["out"]⟩
  mode := .permissive
  lookup place := .error (.notAGitRepo place)

def usualListing (name : String) (forBuild required : Bool) : Listing :=
  ⟨⟨["src"], ["src", name]⟩, forBuild, required⟩

variable {text : String}

theorem usual_sound : (flat [(usualFile, Text.utf8 text.toList)]).Sound :=
  flat_sound (by simp only [List.map_cons, List.map_nil]; decide)

theorem join_usual (name : String) (hname : Nameable ["src", name])
    (htext : joinText "/src" name = Place.text ["src", name]) :
    (⟨["src"], ["src"]⟩ : RootedPath).join (usualSurroundings text).tree name =
      .ok ⟨["src"], ["src", name]⟩ :=
  join_source usual_sound hname (by simp [eq_comm]) htext

theorem entry_usual (name : String) (hname : Nameable ["src", name])
    (hnul : (Place.text ["src", name]).contains '\x00' = false)
    (hlen : (Place.text ["src", name]).utf8ByteSize < pathLimit) :
    (usualSurroundings text).tree.entry true (Place.text ["src", name]) =
      ((usualSurroundings text).tree.lookup ["src", name]).elim (.error .notFound) .ok :=
  entry_source usual_sound hname (by simp [eq_comm]) hnul hlen

theorem readText_usual :
    (usualSurroundings text).tree.readText "/src/requirements.txt" = .ok text := by
  have hentry : (usualSurroundings text).tree.entry true "/src/requirements.txt" =
      .ok (.file (Text.utf8 text.toList)) :=
    entry_usual "requirements.txt" ⟨by decide, by simp⟩ (by simp; decide) (by decide)
  exact readText_of_entry hentry

theorem readText_build :
    (usualSurroundings text).tree.readText "/src/requirements-build.txt" = .error .notFound := by
  have hentry :
      (usualSurroundings text).tree.entry true "/src/requirements-build.txt" = .error .notFound :=
    entry_usual "requirements-build.txt" ⟨by decide, by simp⟩ (by simp; decide) (by decide)
  exact readText_of_error hentry

theorem identityOf_usual :
    identityOf (usualSurroundings text) ⟨["src"], ["src"]⟩ = .ok ⟨"src", none⟩ := by
  have hjoin :
      (⟨["src"], ["src"]⟩ : RootedPath).join (usualSurroundings text).tree Manifest.pythonFile =
      .ok ⟨["src"], ["src", "pyproject.toml"]⟩ :=
    join_usual "pyproject.toml" ⟨by decide, by simp⟩ rfl
  have hmissing :
      (usualSurroundings text).tree.entry true "/src/pyproject.toml" = .error .notFound :=
    entry_usual "pyproject.toml" ⟨by decide, by simp⟩ (by simp; decide) (by decide)
  have hread :
      (usualSurroundings text).readOptional ⟨["src"], ["src", "pyproject.toml"]⟩ = .ok none := by
    unfold Surroundings.readOptional
    rw [show RootedPath.text ⟨["src"], ["src", "pyproject.toml"]⟩ = "/src/pyproject.toml" from rfl,
      readText_of_error hmissing]
    rfl
  unfold identityOf
  simp only [hjoin, hread, bind, Except.bind]
  rfl

theorem join_usualFile :
    (⟨["src"], ["src"]⟩ : RootedPath).join (usualSurroundings text).tree usualFile =
    .ok ⟨["src"], ["src", "requirements.txt"]⟩ :=
  join_usual "requirements.txt" ⟨by decide, by simp⟩ rfl

theorem join_usualBuildFile :
    (⟨["src"], ["src"]⟩ : RootedPath).join (usualSurroundings text).tree usualBuildFile =
    .ok ⟨["src"], ["src", "requirements-build.txt"]⟩ :=
  join_usual "requirements-build.txt" ⟨by decide, by simp⟩ rfl

theorem spelledOut_usual :
    spelledOut (usualSurroundings text) ⟨["src"], ["src"]⟩ (PackageRequest.simple .pip ".") =
    ⟨.pip, ".", some ["requirements.txt"], some []⟩ := by
  have hthere : isMissing (usualSurroundings text) ⟨["src"], ["src"]⟩ usualFile = false := by
    unfold isMissing
    rw [join_usualFile]
    show decide ((usualSurroundings text).tree.readText "/src/requirements.txt" = _) = false
    simp [readText_usual]
  have hmissing : isMissing (usualSurroundings text) ⟨["src"], ["src"]⟩ usualBuildFile = true :=
    isMissing_iff.2 ⟨_, join_usualBuildFile, readText_build⟩
  unfold spelledOut
  rw [PackageRequest.simple, Option.getD_none, Option.getD_none, foundFiles_of_found hthere,
    foundFiles_of_missing hmissing]
  rfl

def usualRequirements : Requirements := ⟨none, false, [⟨"p", [], none, [], .version "1"⟩]⟩

def usualArtifact : Artifact :=
  ⟨"p", "/out/deps/pip/p-1.tar.gz", "requirements.txt", true, false,
    .release ⟨defaultPipIndex, .sourceArchive, "1", none⟩⟩

theorem artifactsOf_usual : artifactsOf (usualSurroundings "p==1\n") listDeps
    (usualListing "requirements.txt" false true) = .ok [usualArtifact] := by
  have hplace : listDeps.join (usualSurroundings "p==1\n").tree (releaseArchive "p" "1") =
      .ok ⟨["out", "deps", "pip"], ["out", "deps", "pip", "p-1.tar.gz"]⟩ :=
    join_output usual_sound ⟨by decide, by simp⟩ rfl (by simp [listDeps])
  have hread : (usualListing "requirements.txt" false true).read (usualSurroundings "p==1\n") =
      .ok (some "p==1\n") := by
    unfold Listing.read Surroundings.readText
    rw [show (usualListing "requirements.txt" false true).path.text = "/src/requirements.txt"
      from rfl, readText_usual]
    rfl
  have hparse : Requirements.parse "requirements.txt" "p==1\n" = .ok usualRequirements := by rfl
  have hartifact :
      checkedArtifact (usualSurroundings "p==1\n") listDeps usualRequirements
        "requirements.txt" false
      ⟨"p", [], none, [], .version "1"⟩ = .ok usualArtifact :=
    checkedArtifact_version hplace (by simp [usualRequirements])
  rw [artifactsOf_eq hread hparse, usualRequirements, List.mapM_cons, ← usualRequirements]
  show (checkedArtifact _ listDeps usualRequirements "requirements.txt" false _ >>= _) = _
  rw [hartifact]
  rfl

def bothNamed : PackageRequest :=
  ⟨.pip, ".", some ["requirements.txt"], some ["requirements-build.txt"]⟩

/-- Without lists the package is resolved as with the usual file alone; with both usual files named
it is refused. -/
theorem usual_lists_agree_oneFile :
    let s := usualSurroundings "p==1\n"
    let directory : RootedPath := ⟨["src"], ["src"]⟩
    resolve s directory (PackageRequest.simple .pip ".") =
        resolve s directory ⟨.pip, ".", some ["requirements.txt"], some []⟩ ∧
      resolve s directory (PackageRequest.simple .pip ".") =
        .ok (resolutionOf directory ⟨"src", none⟩ none [usualArtifact]) ∧
      resolve s directory bothNamed =
        .error (.io "read file" "/src/requirements-build.txt" .notFound) := by
  intro s directory
  obtain ⟨hagree, -, -⟩ := usual_lists_agree s directory (PackageRequest.simple .pip ".")
  obtain ⟨-, -, hrefused⟩ := usual_lists_agree s directory bothNamed
  rw [spelledOut_usual] at hagree
  have hidentity : identityOf s directory = .ok ⟨"src", none⟩ := identityOf_usual
  have hcheckout : s.provenanceOf directory = .ok none := rfl
  have hdeps : s.outputDir.reRoot s.tree depsDir = .ok listDeps :=
    reRoot_output usual_sound ⟨by decide, by simp⟩ rfl
  have hfirst : directory.join s.tree "requirements.txt" =
      .ok ⟨["src"], ["src", "requirements.txt"]⟩ := join_usualFile
  have hsecond : directory.join s.tree "requirements-build.txt" =
      .ok ⟨["src"], ["src", "requirements-build.txt"]⟩ :=
    join_usualBuildFile
  refine ⟨hagree, ?_, ?_⟩
  · have hlisted : listings s directory ⟨.pip, ".", some ["requirements.txt"], some []⟩ =
        .ok [usualListing "requirements.txt" false true] := by
      unfold listings listingsOf
      simp only [List.mapM_cons, List.mapM_nil, hfirst, bind, Except.bind]
      rfl
    rw [hagree, resolve_eq]
    simp only [hidentity, hcheckout, hdeps, hlisted, gather_singleton, s, artifactsOf_usual,
      bind, Except.bind]
    rfl
  · have hlisted : listings s directory bothNamed =
        .ok ([usualListing "requirements.txt" false true] ++
          [usualListing "requirements-build.txt" true true]) := by
      unfold listings listingsOf bothNamed
      simp only [List.mapM_cons, List.mapM_nil, hfirst, hsecond, bind, Except.bind]
      rfl
    refine hrefused _ none _ _ _ _ _ hidentity hcheckout hdeps hlisted ?_ rfl readText_build
    intro b hb
    obtain rfl := List.mem_singleton.1 hb
    exact ⟨_, artifactsOf_usual⟩

end Usual

end FetchPlan.Pip
