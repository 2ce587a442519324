import FetchPlan.Proofs.AcceptedLines
import FetchPlan.Proofs.ChecksumRecords
import FetchPlan.Proofs.Destinations

/-!
What becomes of a URL that is declared. A URL with the lead `git+` names a repository and a
reference, and what is attested of these is the URL again, without its fragment and character for
character; the same holds of the source of a locked crate, without its query
(`provenance_attested`). Any other URL is that of a download: the hash at its end, or else the
first hash option, is the checksum in the package URL of its component (`declared_hash_carried`).

What is attested is read off the artifact again: its version, and the qualifiers in the package
URL of its component, as that is read from its text (`Artifact.Attests`, `Carries`). Nothing is
assumed but that the file is accepted; a requirement whose archive has no place has no artifact,
and of it nothing is said.
-/
namespace FetchPlan

/-! ## Declared URLs -/

namespace Requirements

open Text

/-- The URL that a line declares: what stands before its options after the at sign, up to the
marker. The at sign is the first one between spaces or, where none is, the first one. -/
def declaredUrl? (s : List Char) : Option (List Char) :=
  let spec := (splitOptions s).1
  ((cutAt " @ ".toList spec).or (Text.cut (· == '@') spec)).map fun (_, rest) =>
    (splitMarker [' ', ';'] (trim rest)).1

def withoutFragment (url : List Char) : List Char := url.takeWhile (· != '#')

theorem parts_of_requirement {s : List Char} {r : Requirement} (h : requirement s = .ok r) :
    ∃ head marker, parts (splitOptions s).1 = .ok (head, r.pin, marker) := by
  rw [requirement_eq] at h
  obtain ⟨hashes, -, h⟩ := ok_of_bind h
  obtain ⟨⟨head, pin, marker⟩, hparts, h⟩ := ok_of_bind h
  simp only at h
  split at h
  · rw [← Except.ok.inj h]
    exact ⟨head, marker, hparts⟩
  · cases h

/-- What a line pins is what the URL that it declares stands for. -/
theorem urlPin?_of_declaredUrl? {s d : List Char} {r : Requirement} (h : requirement s = .ok r)
    (hd : declaredUrl? s = some d) : urlPin? d = some r.pin := by
  obtain ⟨head, marker, hparts⟩ := parts_of_requirement h
  obtain ⟨⟨before, rest⟩, hat, rfl⟩ := Option.map_eq_some_iff.1 hd
  unfold parts at hparts
  rw [hat] at hparts
  simp only [urlSpec] at hparts ⊢
  split at hparts
  · next hurl =>
    cases hparts
    exact hurl
  · cases hparts

/-- A line without a URL pins a version, and only such a line does. -/
theorem declaredUrl?_eq_none_iff {s : List Char} {r : Requirement} (h : requirement s = .ok r) :
    declaredUrl? s = none ↔ ∃ v, r.pin = .version v := by
  constructor
  · intro hnone
    obtain ⟨head, marker, hparts⟩ := parts_of_requirement h
    have hat := Option.map_eq_none_iff.1 hnone
    unfold parts at hparts
    rw [hat] at hparts
    simp only [versionSpec] at hparts
    split at hparts
    · cases hparts
    · split at hparts
      · cases hparts
      · exact ⟨_, (congrArg (·.2.1) (Except.ok.inj hparts)).symm⟩
  · rintro ⟨v, hv⟩
    cases hd : declaredUrl? s with
    | none => rfl
    | some d => exact absurd hv ((isInfix_of_urlPin? (urlPin?_of_declaredUrl? h hd)).2 v)

/-- What is read of a URL that names a repository: the URL without its fragment is the repository's
with the reference after an at sign. -/
structure NamesRepository (d : List Char) (url reference : String) : Prop where
  text : "git+" ++ url ++ "@" ++ reference = String.ofList (withoutFragment d)
  notEmpty : reference ≠ ""
  plain : '@' ∉ reference.toList

theorem namesRepository_of_urlPin? {d : List Char} {pin : Pin} (h : urlPin? d = some pin)
    (hgit : "git+".toList <+: d) :
    ∃ url reference, pin = .repository url reference ∧ NamesRepository d url reference := by
  obtain ⟨rest, rfl⟩ := hgit
  unfold urlPin? at h
  rw [after?_append] at h
  obtain ⟨url, reference, rfl, htext, hne, hplain⟩ := of_repositoryPin? h
  refine ⟨url, reference, rfl, ?_, fun he => hne (by rw [he]; rfl), hplain⟩
  have hlead :
      withoutFragment ("git+".toList ++ rest) = "git+".toList ++ rest.takeWhile (· != '#') := rfl
  rw [← String.toList_inj, String.toList_ofList, hlead, ← htext]
  simp

theorem pin_of_urlPin? {d : List Char} {pin : Pin} (h : urlPin? d = some pin)
    (hgit : ¬ "git+".toList <+: d) :
    pin = .url (String.ofList d) ∧ ("https://".toList <+: d ∨ "http://".toList <+: d) := by
  unfold urlPin? at h
  split at h
  · next rest hafter => exact absurd ⟨rest, (eq_of_isPrefixOf? hafter).symm⟩ hgit
  split at h
  · next hlead =>
    refine ⟨(Option.some.inj h).symm, hlead.imp ?_ ?_⟩
    all_goals
      intro hsome
      obtain ⟨rest, hrest⟩ := Option.isSome_iff_exists.1 hsome
      exact ⟨rest, (eq_of_isPrefixOf? hrest).symm⟩
  · cases h

end Requirements

/-! ## Repositories -/

/-- Whether an artifact attests a provenance: it is the version of the artifact, and the only
qualifier in the package URL of the artifact's component, as that is read from its text. -/
structure Artifact.Attests (a : Artifact) (c : Component) (provenance : String) : Prop where
  version : a.version = provenance
  qualifiers : ∃ p, PackageUrl.parse? c.purl = some p ∧ p.qualifiers = [("vcs_url", provenance)]

theorem Artifact.attests_version (e : Ecosystem) {a : Artifact} {r : Repository}
    (h : a.origin = .repository r) (lockedVersion : Option String) :
    a.Attests (Component.ofArtifact e a lockedVersion) r.version := by
  have hne : r.version ≠ "" := by simp [Repository.version]
  refine ⟨by rw [Artifact.version, h], _, Component.parse?_ofArtifact e a lockedVersion, ?_⟩
  unfold Artifact.packageUrl
  rw [h]
  cases e <;> simp [Component.purlOfOrigin, PackageUrl.withQualifier, PackageUrl.withVersion, hne,
    PackageUrl.ofName, PackageUrl.insertSorted]

theorem Pip.artifactOf_of_planOf {s : Surroundings} {deps destination : RootedPath}
    {indexUrl what place : String} {r : Requirement} {origin : Origin} {hasHash forBuild : Bool}
    (hplan : Pip.planOf indexUrl what r = .ok (place, origin, hasHash))
    (hplace : deps.join s.tree place = .ok destination) :
    Pip.artifactOf s deps indexUrl what forBuild r =
      .ok ⟨r.name, destination.text, what, !hasHash, forBuild, origin⟩ := by
  simp only [Pip.artifactOf, hplan, hplace, bind, Except.bind]
  rfl

/-- Whether a requirement of a repository has an artifact that attests a provenance, wherever its
archive has a place. -/
def Requirement.Attests (r : Requirement) (repository : Repository) (provenance : String) : Prop :=
  ∀ (s : Surroundings) (deps place : RootedPath) (indexUrl requirementFile : String)
      (forBuild : Bool),
    deps.join s.tree (Pip.repositoryArchive repository) = .ok place →
      ∃ a, Pip.artifactOf s deps indexUrl requirementFile forBuild r = .ok a ∧
        a.Attests (Component.ofArtifact .pip a none) provenance

/-- Whether a locked crate has an artifact that attests a provenance, wherever its destination has
a place. -/
def LockedCrate.Attests (c : LockedCrate) (provenance : String) : Prop :=
  ∀ (s : Surroundings) (deps place : RootedPath) (lockFile : String) (checkout : Option Checkout),
    deps.join s.tree c.destination = .ok place →
      ∃ a component, Cargo.entryOf s deps lockFile checkout c = .ok (some a, component) ∧
        a.Attests component provenance

theorem Requirement.attests_of_pin {r : Requirement} {url reference : String}
    {repository : Repository} (hpin : r.pin = .repository url reference)
    (hrepository : Repository.parse url reference = .ok repository) :
    r.Attests repository ("git+" ++ url ++ "@" ++ reference) := by
  intro s deps place indexUrl requirementFile forBuild hplace
  have hplan : Pip.planOf indexUrl requirementFile r =
      .ok (Pip.repositoryArchive repository, .repository repository, !r.hashes.isEmpty) := by
    unfold Pip.planOf
    rw [hpin]
    simp only [hrepository, bind, Except.bind]
    rfl
  refine ⟨_, Pip.artifactOf_of_planOf hplan hplace, ?_⟩
  rw [← Repository.version_of_parse hrepository]
  exact Artifact.attests_version .pip rfl none

theorem LockedCrate.attests_of_source {c : LockedCrate} {url commit : String}
    {query : Option String} {repository : Repository}
    (hsource : CrateSource.ofLocked c.source = .ok (.git url query commit))
    (hrepository : Repository.parse url commit = .ok repository) :
    c.Attests ("git+" ++ url ++ "@" ++ commit) := by
  intro s deps place lockFile checkout hplace
  have hplace : deps.join s.tree (c.name ++ "-" ++ c.version) = .ok place := hplace
  let a : Artifact := ⟨c.name, place.text, lockFile, false, false, .repository repository⟩
  refine ⟨a, Component.ofArtifact .cargo a (some c.version), ?_, ?_⟩
  · simp only [Cargo.entryOf, Cargo.originOf, hsource, hrepository, hplace, bind, Except.bind,
      pure, Except.pure]
    rfl
  · rw [← Repository.version_of_parse hrepository]
    exact Artifact.attests_version .cargo rfl (some c.version)

/-- Each line that is accepted pins a version or declares a URL. One with the lead `git+` is read
as a repository and a reference, which are the URL again, without its fragment; where these are
understood and the archive has a place, there is an artifact that attests that text. A locked crate
of a repository has an artifact that attests the repository and the commit of its source. -/
theorem provenance_attested :
    (∀ what text file, Requirements.parse what text = .ok file →
      List.Forall₂
        (fun line r => (Requirements.declaredUrl? line = none ↔ ∃ v, r.pin = .version v) ∧
          ∀ d, Requirements.declaredUrl? line = some d → "git+".toList <+: d →
            ∃ url reference, r.pin = .repository url reference ∧
              Requirements.NamesRepository d url reference ∧
              ∀ repository, Repository.parse url reference = .ok repository →
                r.Attests repository ("git+" ++ url ++ "@" ++ reference))
        (Requirements.requirementLines text) file.requirements) ∧
    ∀ (c : LockedCrate) url query commit repository,
    CrateSource.ofLocked c.source = .ok (.git url query commit) →
      Repository.parse url commit = .ok repository →
      c.Attests ("git+" ++ url ++ "@" ++ commit) := by
  constructor
  · intro what text file hparse
    refine (Requirements.requirements_of_parse hparse).imp fun line r hr => ?_
    refine ⟨Requirements.declaredUrl?_eq_none_iff hr, fun d hd hgit => ?_⟩
    have hpin := Requirements.urlPin?_of_declaredUrl? hr hd
    obtain ⟨url, reference, hrepository, hnames⟩ :=
      Requirements.namesRepository_of_urlPin? hpin hgit
    exact ⟨url, reference, hrepository, hnames, fun repository hparsed =>
      Requirement.attests_of_pin hrepository hparsed⟩
  · intro c url query commit repository hsource hparsed
    exact LockedCrate.attests_of_source hsource hparsed

/-- A repository with a user name, a port and an at sign in its path, at a branch with a slash in
its name. -/
def branchUrl : String := "git+ssh://me@h:22/a@b/c.git@feature/x"

def branchLine : String := "lib @ " ++ branchUrl ++ "#egg=lib ; m"

def branchRequirement : Requirement :=
  ⟨"lib", [], some "m", [], .repository "ssh://me@h:22/a@b/c.git" "feature/x"⟩

theorem provenance_attested_branch :
    let outside (place : String) : Except Error Checkout := .error (.notAGitRepo place)
    Requirements.parse "a.txt" branchLine = .ok ⟨none, false, [branchRequirement]⟩ ∧
    (∃ a, Pip.artifactOf (listSurroundings branchLine "") listDeps defaultPipIndex "a.txt" false
      branchRequirement =
        .ok a ∧ a.Attests (Component.ofArtifact .pip a none) branchUrl) ∧
    ∃ a component,
    Cargo.entryOf (Cargo.crateSurroundings "" "" .permissive outside) Cargo.crateDeps
      "Cargo.lock" none
        ⟨"lib", "1", some "git+ssh://me@h/r?branch=b#c", none⟩ = .ok (some a, component) ∧
      a.Attests component "git+ssh://me@h/r@c" := by
  intro outside
  have hparse : Requirements.parse "a.txt" branchLine = .ok ⟨none, false, [branchRequirement]⟩ := by
    decide +kernel
  have hlines : Requirements.requirementLines branchLine = [branchLine.toList] := by decide +kernel
  have hdeclared :
      Requirements.declaredUrl? branchLine.toList = some (branchUrl ++ "#egg=lib").toList := by
    decide +kernel
  have hrepository : Repository.parse "ssh://me@h:22/a@b/c.git" "feature/x" =
      .ok ⟨"ssh://me@h:22/a@b/c.git", "h", "a@b", "c", "feature/x"⟩ := by rfl
  have hplace : listDeps.join (listSurroundings branchLine "").tree
      (Pip.repositoryArchive ⟨"ssh://me@h:22/a@b/c.git", "h", "a@b", "c", "feature/x"⟩) =
        .ok ⟨_, _⟩ :=
    join_archive (p := ["h", "a@b", "c", "c-external-gitcommit-feature", "x.tar.gz"])
      ⟨by decide, by simp⟩ rfl
  have hcrate : Repository.parse "ssh://me@h/r" "c" = .ok ⟨"ssh://me@h/r", "h", "", "r", "c"⟩ := by
    rfl
  have hcratePlace :
      Cargo.crateDeps.join (Cargo.crateSurroundings "" "" .permissive outside).tree "lib-1" =
      .ok ⟨["out", "deps", "cargo"], ["out", "deps", "cargo", "lib-1"]⟩ :=
    Cargo.join_crate ⟨by decide, by simp⟩ rfl
  refine ⟨hparse, ?_, ?_⟩
  · have hall := provenance_attested.1 "a.txt" branchLine _ hparse
    rw [hlines] at hall
    obtain ⟨-, hdeclares⟩ := (List.forall₂_cons.1 hall).1
    obtain ⟨url, reference, hpin, -, hattests⟩ := hdeclares _ hdeclared (by decide)
    obtain ⟨rfl, rfl⟩ := Pin.repository.inj hpin
    exact hattests _ hrepository _ _ _ _ _ _ hplace
  · exact provenance_attested.2 ⟨"lib", "1", some "git+ssh://me@h/r?branch=b#c", none⟩
      "ssh://me@h/r" (some "branch=b")
      "c" _ (by rfl) hcrate _ _ _ _ _ hcratePlace

/-! ## Downloads -/

/-- Whether a URL declares a hash: after its first number sign come an algorithm that hashes may be
of, an equals sign and a digest. -/
structure DeclaresHash (d algorithm digest : List Char) : Prop where
  fragment : ∃ url, d = url ++ '#' :: (algorithm ++ '=' :: digest) ∧ '#' ∉ url
  known : String.ofList algorithm ∈ Download.hashAlgorithms
  notEmpty : digest ≠ []

/-- What an artifact and its package URL have of the URL that is declared for it and of the hash
options beside it. -/
structure Carries (d : List Char) (hashes : List String) (a : Artifact) (download : Download)
    (p : PackageUrl) :
    Prop where
  origin : a.origin = .download download
  url : download.url = String.ofList (Requirements.withoutFragment d)
  downloadUrl : p.qualifier "download_url" = some download.url
  /-- A hash at the end of the URL wins. -/
  declared : ∀ algorithm digest, DeclaresHash d algorithm digest →
    p.qualifier "checksum" = some (String.ofList (algorithm ++ ':' :: digest))
  /-- Else there is the checksum of the first option, as it is written unless an equals sign stands
  before its colon. -/
  option : (∀ algorithm digest, ¬ DeclaresHash d algorithm digest) → ∀ hash ∈ hashes.head?,
    ∃ checksum, p.qualifier "checksum" = some checksum ∧
      ('=' ∉ hash.toList.takeWhile (· != ':') → checksum = hash)
  neither : (∀ algorithm digest, ¬ DeclaresHash d algorithm digest) → hashes = [] →
    p.qualifier "checksum" = none ∧ download.urlWithHash = download.url
  missing : a.missingChecksum = true ↔ p.qualifier "checksum" = none

namespace Download

theorem cut_hash {algorithm digest : List Char} (h : String.ofList algorithm ∈ hashAlgorithms) :
    Text.cut (· == '=') (algorithm ++ '=' :: digest) = some (algorithm, digest) := by
  have hplain : ∀ name ∈ hashAlgorithms, '=' ∉ name.toList := by decide
  refine Text.cut_beq_eq_some.2 ⟨?_, rfl⟩
  simpa using hplain _ h

theorem filter_fragment?_eq_some {d hash : List Char} : (fragment? d).filter isHash = some hash ↔
    ∃ algorithm digest, hash = algorithm ++ '=' :: digest ∧ DeclaresHash d algorithm digest := by
  rw [Option.filter_eq_some_iff]
  constructor
  · rintro ⟨hfragment, hisHash⟩
    obtain ⟨⟨url, _⟩, hcut, rfl⟩ := Option.map_eq_some_iff.1 hfragment
    obtain ⟨hurl, hd⟩ := Text.cut_beq_eq_some.1 hcut
    unfold isHash at hisHash
    split at hisHash
    · next algorithm digest hsplit =>
      obtain ⟨-, hhash⟩ := Text.cut_beq_eq_some.1 hsplit
      obtain ⟨hne, hknown⟩ : digest ≠ [] ∧ String.ofList algorithm ∈ hashAlgorithms := by
        simpa using hisHash
      simp only at hhash hd
      exact ⟨algorithm, digest, hhash, ⟨url, by rw [hd, hhash], hurl⟩, hknown, hne⟩
    · cases hisHash
  · rintro ⟨algorithm, digest, rfl, ⟨url, rfl, hurl⟩, hknown, hne⟩
    have hcut : Text.cut (· == '#') (url ++ '#' :: (algorithm ++ '=' :: digest)) =
        some (url, algorithm ++ '=' :: digest) := Text.cut_beq_eq_some.2 ⟨hurl, rfl⟩
    refine ⟨by rw [fragment?, hcut, Option.map_some], ?_⟩
    simp only [isHash, cut_hash hknown]
    simp [hne, hknown]

theorem filter_fragment?_eq_none {d : List Char}
    (h : ∀ algorithm digest, ¬ DeclaresHash d algorithm digest) :
    (fragment? d).filter isHash = none := by
  cases hhash : (fragment? d).filter isHash with
  | none => rfl
  | some hash =>
    obtain ⟨algorithm, digest, -, hdeclares⟩ := filter_fragment?_eq_some.1 hhash
    exact absurd hdeclares (h algorithm digest)

theorem checksum_ofDeclared {declared : String} {firstHash : Option String}
    {hash algorithm digest : List Char} (h : declaredHash? declared.toList firstHash = some hash)
    (hcut : Text.cut (· == '=') hash = some (algorithm, digest)) :
    Component.checksumOfFragment (ofDeclared declared firstHash).urlWithHash =
      some (String.ofList (algorithm ++ ':' :: digest)) := by
  rw [ofDeclared_eq, h]
  exact checksumOfFragment_append (not_mem_takeWhile _) hcut

/-- The checksum of a hash option, as it is written unless an equals sign stands before its colon.
-/
theorem cut_ofHashOption {hash : String} (h : ':' ∈ hash.toList) : ∃ algorithm digest,
    Text.cut (· == '=') (ofHashOption hash) = some (algorithm, digest) ∧
    ('=' ∉ hash.toList.takeWhile (· != ':') →
      String.ofList (algorithm ++ ':' :: digest) = hash) := by
  obtain ⟨algorithm, digest, hcut⟩ := Text.cut_of_mem h
  have hlead : hash.toList.takeWhile (· != ':') = algorithm := Text.takeWhile_of_cut hcut
  obtain ⟨-, hhash⟩ := Text.cut_beq_eq_some.1 hcut
  have hoption : ofHashOption hash = algorithm ++ '=' :: digest := by simp only [ofHashOption, hcut]
  rw [hoption, hlead]
  by_cases hequals : '=' ∈ algorithm
  · obtain ⟨before, after, hsplit⟩ := Text.cut_of_mem (List.mem_append_left ('=' :: digest) hequals)
    exact ⟨before, after, hsplit, fun h => absurd hequals h⟩
  · refine ⟨algorithm, digest, Text.cut_beq_eq_some.2 ⟨hequals, rfl⟩, fun _ => ?_⟩
    rw [← String.toList_inj, String.toList_ofList]
    exact hhash.symm

end Download

section Carried

variable {d : List Char} {hashes : List String} {a : Artifact}

theorem qualifier_downloadUrl {download : Download} (h : a.origin = .download download)
    (hurl : download.url ≠ "") :
    (a.packageUrl .pip none).qualifier "download_url" = some download.url := by
  have hkeys : ¬ ("download_url" : String) = "checksum" := by decide
  unfold Artifact.packageUrl
  rw [h]
  simp only [Component.purlOfOrigin]
  rw [PackageUrl.qualifier_withQualifier, if_neg fun h => hkeys h.1,
    PackageUrl.qualifier_withQualifier, if_pos ⟨rfl, hurl⟩]

theorem ne_empty_of_checksumOfFragment {url checksum : String}
    (h : Component.checksumOfFragment url = some checksum) : checksum ≠ "" := by
  simp only [Component.checksumOfFragment, Option.bind_eq_bind, Option.bind_eq_some_iff] at h
  obtain ⟨_, -, ⟨algorithm, digest⟩, -, hchecksum⟩ := h
  rw [← Option.some.inj hchecksum]
  simp

theorem qualifier_of_download {download : Download} (h : a.origin = .download download) :
    (a.packageUrl .pip none).qualifier "checksum" =
      Component.checksumOfFragment download.urlWithHash := by
  rw [qualifier_checksum none (.inr ⟨_, h⟩), h, Origin.declared?]
  cases hchecksum : Component.checksumOfFragment download.urlWithHash with
  | none => rfl
  | some checksum => simp [ne_empty_of_checksumOfFragment hchecksum]

theorem carries_of_origin (hlead : "https://".toList <+: d ∨ "http://".toList <+: d)
    (hcolon : ∀ h ∈ hashes, ':' ∈ h.toList)
    (horigin : a.origin = .download (Download.ofDeclared (String.ofList d) hashes.head?))
    (hmissing : a.missingChecksum = !(Download.ofDeclared (String.ofList d) hashes.head?).hasHash) :
    Carries d hashes a (Download.ofDeclared (String.ofList d) hashes.head?)
      (a.packageUrl .pip none) := by
  have hfirst : ∀ h ∈ hashes.head?, ':' ∈ h.toList :=
    fun h hh => hcolon h (List.mem_of_mem_head? hh)
  have hurl : (Download.ofDeclared (String.ofList d) hashes.head?).url =
      String.ofList (Requirements.withoutFragment d) := by
    rw [Download.ofDeclared_eq, String.toList_ofList]
    rfl
  have hne : String.ofList (Requirements.withoutFragment d) ≠ "" := by
    rcases hlead with ⟨rest, rfl⟩ | ⟨rest, rfl⟩ <;> simp [Requirements.withoutFragment]
  -- without a hash in the URL, the first option is all that is declared
  have hoption (hnone : ∀ algorithm digest, ¬ DeclaresHash d algorithm digest) :
      Download.declaredHash? d hashes.head? = hashes.head?.map Download.ofHashOption := by
    rw [Download.declaredHash?, Download.filter_fragment?_eq_none hnone, Option.none_or]
  have hchecksum {hash algorithm digest : List Char}
      (h : Download.declaredHash? d hashes.head? = some hash)
      (hcut : Text.cut (· == '=') hash = some (algorithm, digest)) :
      (a.packageUrl .pip none).qualifier "checksum" =
        some (String.ofList (algorithm ++ ':' :: digest)) := by
    rw [qualifier_of_download horigin]
    exact Download.checksum_ofDeclared (by rwa [String.toList_ofList]) hcut
  refine ⟨horigin, hurl, qualifier_downloadUrl horigin (hurl ▸ hne), ?_, ?_, ?_, ?_⟩
  · intro algorithm digest hdeclares
    have hhash : Download.declaredHash? d hashes.head? = some (algorithm ++ '=' :: digest) := by
      rw [Download.declaredHash?,
        Download.filter_fragment?_eq_some.2 ⟨algorithm, digest, rfl, hdeclares⟩]
      rfl
    exact hchecksum hhash (Download.cut_hash hdeclares.known)
  · intro hnone hash hhash
    obtain ⟨algorithm, digest, hcut, hverbatim⟩ := Download.cut_ofHashOption (hfirst hash hhash)
    have hdeclared : Download.declaredHash? d hashes.head? = some (Download.ofHashOption hash) := by
      rw [hoption hnone, Option.mem_def.1 hhash, Option.map_some]
    exact ⟨_, hchecksum hdeclared hcut, hverbatim⟩
  · rintro hnone rfl
    have hbare : Download.ofDeclared (String.ofList d) ([] : List String).head? = ⟨_, _⟩ :=
      Download.ofDeclared_eq _ _
    rw [String.toList_ofList, hoption hnone] at hbare
    have hurl : '#' ∉ d.takeWhile (· != '#') := Download.not_mem_takeWhile d
    rw [qualifier_of_download horigin, hbare]
    exact ⟨checksumOfFragment_bare hurl, rfl⟩
  · rw [hmissing, hasHash_ofDeclared _ hfirst, qualifier_of_download horigin]
    simp

theorem Pip.planOf_url (r : Requirement) {declared indexUrl what file : String}
    (hpin : r.pin = .url declared)
    (hfile :
      (Remote.segments (Download.ofDeclared declared r.hashes.head?).url).getLast? = some file) :
    Pip.planOf indexUrl what r = .ok ("external-" ++ r.name ++ "/" ++ file,
      .download (Download.ofDeclared declared r.hashes.head?),
      (Download.ofDeclared declared r.hashes.head?).hasHash) := by
  unfold Pip.planOf
  rw [hpin]
  simp only [hfile]

/-- A requirement with the URL of a download has an artifact that carries the URL and the hash. -/
theorem Pip.carries_of_artifactOf {r : Requirement} (hpin : r.pin = .url (String.ofList d))
    (hlead : "https://".toList <+: d ∨ "http://".toList <+: d)
    (hcolon : ∀ h ∈ r.hashes, ':' ∈ h.toList) {s : Surroundings} {deps : RootedPath}
    {indexUrl what : String} {forBuild : Bool}
    (h : Pip.artifactOf s deps indexUrl what forBuild r = .ok a) :
    ∃ download p, PackageUrl.parse? (Component.ofArtifact .pip a none).purl = some p ∧
      Carries d r.hashes a download p := by
  obtain ⟨⟨place, origin, hasHash⟩, hplan, h⟩ := ok_of_bind h
  obtain ⟨destination, -, ha⟩ := ok_of_bind h
  unfold Pip.planOf at hplan
  rw [hpin] at hplan
  simp only at hplan
  split at hplan
  · cases hplan
    rw [← Except.ok.inj ha]
    exact ⟨_, _, Component.parse?_ofArtifact .pip _ none, carries_of_origin hlead hcolon rfl rfl⟩
  · cases hplan

end Carried

/-- Each line that is accepted and declares a URL without the lead `git+` is read as a download
with the hashes of the line's options, and every artifact of it carries the URL without its
fragment, and the hash of the fragment or else of the first option; it is flagged exactly when
there is neither. -/
theorem declared_hash_carried {what text : String} {file : Requirements}
    (h : Requirements.parse what text = .ok file) :
    List.Forall₂
      (fun line r => ∀ d, Requirements.declaredUrl? line = some d → ¬ "git+".toList <+: d →
        r.pin = .url (String.ofList d) ∧
        r.hashes = Requirements.hashValues (Text.words (Requirements.splitOptions line).2) ∧
        ∀ s deps indexUrl requirementFile forBuild a,
          Pip.artifactOf s deps indexUrl requirementFile forBuild r = .ok a →
            ∃ download p, PackageUrl.parse? (Component.ofArtifact .pip a none).purl = some p ∧
              Carries d r.hashes a download p)
      (Requirements.requirementLines text) file.requirements := by
  refine (Requirements.requirements_of_parse h).imp fun line r hr d hd hgit => ?_
  have hread := Requirements.urlPin?_of_declaredUrl? hr hd
  obtain ⟨hpin, hlead⟩ := Requirements.pin_of_urlPin? hread hgit
  refine ⟨hpin, (Requirements.standsOn_of_requirement hr).hashes, ?_⟩
  intro s deps indexUrl requirementFile forBuild a ha
  exact Pip.carries_of_artifactOf hpin hlead (Requirements.colon_of_requirement hr) ha

/-- A download whose fragment is no hash, with an option that has an equals sign after its first
colon; and one whose fragment is a hash, with a number sign, an equals sign and a colon in its
digest. -/
def hashedLines : String :=
  "p @ https://h/p.zip#egg=p#md5=x --hash=sha256:a=b:c\n" ++
    "q @ https://h/q.zip#md5=x#y=z:w --hash=sha256:v\n"

def plainFragment : Requirement :=
  ⟨"p", [], none, ["sha256:a=b:c"], .url "https://h/p.zip#egg=p#md5=x"⟩

def hashFragment : Requirement := ⟨"q", [], none, ["sha256:v"], .url "https://h/q.zip#md5=x#y=z:w"⟩

theorem declared_hash_carried_hashedLines :
    Requirements.parse "a.txt" hashedLines = .ok ⟨none, false, [plainFragment, hashFragment]⟩ ∧
    (∃ a p, Pip.artifactOf (listSurroundings hashedLines "") listDeps defaultPipIndex "a.txt"
      false plainFragment =
        .ok a ∧ PackageUrl.parse? (Component.ofArtifact .pip a none).purl = some p ∧
      p.qualifier "download_url" = some "https://h/p.zip" ∧
        p.qualifier "checksum" = some "sha256:a=b:c") ∧
    ∃ a p, Pip.artifactOf (listSurroundings hashedLines "") listDeps defaultPipIndex "a.txt"
      false hashFragment =
        .ok a ∧ PackageUrl.parse? (Component.ofArtifact .pip a none).purl = some p ∧
      p.qualifier "download_url" = some "https://h/q.zip" ∧
      p.qualifier "checksum" = some "md5:x#y=z:w" := by
  have hparse : Requirements.parse "a.txt" hashedLines =
      .ok ⟨none, false, [plainFragment, hashFragment]⟩ := by
    decide +kernel
  have hlines : Requirements.requirementLines hashedLines =
      ["p @ https://h/p.zip#egg=p#md5=x --hash=sha256:a=b:c".toList,
        "q @ https://h/q.zip#md5=x#y=z:w --hash=sha256:v".toList] := by decide +kernel
  have hall := declared_hash_carried hparse
  rw [hlines] at hall
  obtain ⟨hplain, hall⟩ := List.forall₂_cons.1 hall
  obtain ⟨hhash, -⟩ := List.forall₂_cons.1 hall
  have hplainFile : (Remote.segments "https://h/p.zip").getLast? = some "p.zip" := by decide +kernel
  have hhashFile : (Remote.segments "https://h/q.zip").getLast? = some "q.zip" := by decide +kernel
  have hplainPlace :
      listDeps.join (listSurroundings hashedLines "").tree "external-p/p.zip" = .ok ⟨_, _⟩ :=
    join_archive (p := ["external-p", "p.zip"]) ⟨by decide, by simp⟩ rfl
  have hhashPlace :
      listDeps.join (listSurroundings hashedLines "").tree "external-q/q.zip" = .ok ⟨_, _⟩ :=
    join_archive (p := ["external-q", "q.zip"]) ⟨by decide, by simp⟩ rfl
  refine ⟨hparse, ?_, ?_⟩
  · obtain ⟨-, -, hcarries⟩ := hplain "https://h/p.zip#egg=p#md5=x".toList (by rfl) (by decide)
    have ha : Pip.artifactOf (listSurroundings hashedLines "") listDeps defaultPipIndex "a.txt"
        false plainFragment =
        .ok _ := Pip.artifactOf_of_planOf (Pip.planOf_url plainFragment rfl hplainFile) hplainPlace
    obtain ⟨download, p, hread, hcarried⟩ := hcarries _ _ _ _ _ _ ha
    have hnone : ∀ algorithm digest,
        ¬ DeclaresHash "https://h/p.zip#egg=p#md5=x".toList algorithm digest := by
      intro algorithm digest hdeclares
      cases Download.filter_fragment?_eq_some.2 ⟨algorithm, digest, rfl, hdeclares⟩
    obtain ⟨checksum, hchecksum, hverbatim⟩ := hcarried.option hnone "sha256:a=b:c" rfl
    refine ⟨_, p, ha, hread, ?_, ?_⟩
    · rw [hcarried.downloadUrl, hcarried.url]
      rfl
    · rw [hchecksum, hverbatim (by decide)]
  · obtain ⟨-, -, hcarries⟩ := hhash "https://h/q.zip#md5=x#y=z:w".toList (by rfl) (by decide)
    have ha : Pip.artifactOf (listSurroundings hashedLines "") listDeps defaultPipIndex "a.txt"
        false hashFragment =
        .ok _ := Pip.artifactOf_of_planOf (Pip.planOf_url hashFragment rfl hhashFile) hhashPlace
    obtain ⟨download, p, hread, hcarried⟩ := hcarries _ _ _ _ _ _ ha
    have hdeclares :
        DeclaresHash "https://h/q.zip#md5=x#y=z:w".toList "md5".toList "x#y=z:w".toList :=
      ⟨⟨"https://h/q.zip".toList, by rfl, by decide⟩, by decide, by decide⟩
    refine ⟨_, p, ha, hread, ?_, hcarried.declared _ _ hdeclares⟩
    rw [hcarried.downloadUrl, hcarried.url]
    rfl

end FetchPlan
