import FetchPlan.Proofs.PackageEntries
import FetchPlan.Proofs.RequirementText

/-!
Which artifacts can be verified. An artifact lacks the flag of a missing checksum exactly when its
file declares a checksum for it (`missing_eq_declared`), and what is recorded of it, in its origin
or in its package URL, has a digest exactly when the declared checksum has one (`recorded_iff`).
So every artifact is either recorded with a digest or flagged, but for those whose declared
checksum is hollow (`recorded_or_flagged_iff`).

What is proved of every package that is resolved: an artifact is flagged exactly when no checksum
is declared for it, and is recorded with a digest or flagged, never both, unless its declared
checksum is hollow. In a file that asks for hashes no artifact is flagged. The exception is real:
a hash option without a digest counts as a hash (`neither_recorded_nor_flagged_hollow`).
-/
namespace FetchPlan

/-! ## Qualifiers -/

namespace PackageUrl

theorem lookup_pair (k key value : String) (qs : List (String × String)) :
    ((key, value) :: qs).lookup k = if k = key then some value else qs.lookup k := by
  by_cases hk : k = key
  · simp [hk]
  · have hbeq : (k == key) = false := by simpa using hk
    simp [List.lookup_cons, hbeq, hk]

theorem lookup_insertSorted (key value k : String) : ∀ qs : List (String × String),
    (insertSorted key value qs).lookup k = if k = key then some value else qs.lookup k
  | [] => by simp [insertSorted]
  | (k', v) :: qs => by
    have ih := lookup_insertSorted key value k qs
    unfold insertSorted
    split
    · rw [lookup_pair]
    split
    · next heq =>
      rw [lookup_pair, lookup_pair, ← heq]
      by_cases hk : k = key <;> simp [hk]
    · next hne =>
      rw [lookup_pair, lookup_pair, ih]
      by_cases hk : k = k'
      · simp [hk, Ne.symm hne]
      · simp [hk]

theorem qualifier_withQualifier (p : PackageUrl) (key value k : String) :
    (p.withQualifier key value).qualifier k =
      if k = key ∧ value ≠ "" then some value else p.qualifier k := by
  unfold withQualifier qualifier
  by_cases hv : value = "" <;> simp [hv, lookup_insertSorted]

end PackageUrl

/-! ## Declared and recorded checksums -/

/-- The checksum that a file declares for what comes from an origin. That of a download is the hash
at the end of its URL. -/
def Origin.declared? : Origin → Option String
  | .release r => r.checksum
  | .repository _ => none
  | .download d => Component.checksumOfFragment d.urlWithHash

/-- Whether a checksum is `algorithm:digest` with a digest; the algorithm may be empty. -/
def HasDigest (checksum : String) : Prop :=
  ∃ algorithm digest, Text.cut (· == ':') checksum.toList = some (algorithm, digest) ∧ digest ≠ []

/-- Whether a checksum is `algorithm:digest` with both parts. -/
def HasBothParts (checksum : String) : Prop :=
  ∃ algorithm digest,
    Text.cut (· == ':') checksum.toList = some (algorithm, digest) ∧ algorithm ≠ [] ∧ digest ≠ []

/-- Whether a checksum of an origin tells what its content is. A lock file of cargo has the digest
alone. -/
def Origin.Verifies (e : Ecosystem) (checksum : String) : Origin → Prop
  | .release _ =>
    match e with
    | .cargo => checksum ≠ ""
    | .pip => HasBothParts checksum
  | .repository _ => False
  | .download _ => HasDigest checksum

/-- Whether a digest is recorded for an artifact: in its origin for a release of pip, else in the
qualifier of its component's package URL, as that is read from its text. -/
def Artifact.Recorded (e : Ecosystem) (a : Artifact) (c : Component) : Prop :=
  match e, a.origin with
  | .pip, .release r => ∃ checksum, r.checksum = some checksum ∧ a.origin.Verifies .pip checksum
  | _, _ =>
    ∃ p checksum, PackageUrl.parse? c.purl = some p ∧ p.qualifier "checksum" = some checksum ∧
      a.origin.Verifies e checksum

theorem Origin.Verifies.ne_empty {e : Ecosystem} {checksum : String} {o : Origin}
    (h : o.Verifies e checksum) : checksum ≠ "" := by
  rintro rfl
  cases o with
  | release r =>
    cases e with
    | cargo => exact h rfl
    | pip => obtain ⟨_, _, h, -⟩ := h; cases h
  | repository r => exact h
  | download d => obtain ⟨_, _, h, -⟩ := h; cases h

theorem qualifier_checksum {e : Ecosystem} {a : Artifact} (v : Option String)
    (h : e = .cargo ∧ (∃ r, a.origin = .release r) ∨ ∃ d, a.origin = .download d) :
    (a.packageUrl e v).qualifier "checksum" = a.origin.declared?.filter (· ≠ "") := by
  have hkeys : ("checksum" : String) ≠ "repository_url" ∧
      ("checksum" : String) ≠ "download_url" := by decide
  have hset : ∀ (p : PackageUrl) (declared : Option String), p.qualifier "checksum" = none →
      (p.withQualifier "checksum" (declared.getD "")).qualifier "checksum" =
        declared.filter (· ≠ "") := by
    intro p declared hp
    rw [PackageUrl.qualifier_withQualifier, hp]
    cases declared with
    | none => simp
    | some s => by_cases hs : s = "" <;> simp [hs, Option.filter]
  unfold Artifact.packageUrl Origin.declared?
  rcases h with ⟨rfl, r, hr⟩ | ⟨d, hd⟩
  · rw [hr]
    unfold Component.purlOfOrigin
    simp only
    split
    · exact hset _ _ rfl
    · rw [PackageUrl.qualifier_withQualifier, if_neg fun h => hkeys.1 h.1]
      exact hset _ _ rfl
  · rw [hd]
    unfold Component.purlOfOrigin
    simp only
    refine hset _ _ ?_
    rw [PackageUrl.qualifier_withQualifier, if_neg fun h => hkeys.2 h.1]
    rfl

theorem recorded_iff (e : Ecosystem) (a : Artifact) (v : Option String) :
    a.Recorded e (Component.ofArtifact e a v) ↔
      ∃ checksum, a.origin.declared? = some checksum ∧ a.origin.Verifies e checksum := by
  have hread := Component.parse?_ofArtifact e a v
  have hqualifier : (e = .cargo ∧ (∃ r, a.origin = .release r) ∨ ∃ d, a.origin = .download d) →
      ((∃ p checksum, PackageUrl.parse? (Component.ofArtifact e a v).purl = some p ∧
        p.qualifier "checksum" = some checksum ∧ a.origin.Verifies e checksum) ↔
      ∃ checksum, a.origin.declared? = some checksum ∧ a.origin.Verifies e checksum) := by
    intro h
    have hq := qualifier_checksum v h
    constructor
    · rintro ⟨p, checksum, hp, hchecksum, hverifies⟩
      rw [hread] at hp
      obtain rfl := Option.some.inj hp
      rw [hq] at hchecksum
      exact ⟨checksum, (Option.filter_eq_some_iff.1 hchecksum).1, hverifies⟩
    · rintro ⟨checksum, hchecksum, hverifies⟩
      refine ⟨_, checksum, hread, ?_, hverifies⟩
      rw [hq, hchecksum]
      simp [hverifies.ne_empty]
  unfold Artifact.Recorded
  cases ho : a.origin with
  | release r =>
    cases e with
    | cargo =>
      have hcargo := hqualifier (.inl ⟨rfl, r, ho⟩)
      rwa [ho] at hcargo
    | pip => simp [Origin.declared?]
  | repository r => cases e <;> simp [Origin.Verifies]
  | download d =>
    have hdownload := hqualifier (.inr ⟨d, ho⟩)
    rw [ho] at hdownload
    cases e <;> exact hdownload

/-! ## Hashes of requirements -/

namespace Requirements

theorem colon_of_hash? {c : Choice} {h : String} (hc : hash? c = some h) : ':' ∈ h.toList := by
  obtain ⟨option, value⟩ := c
  cases value with
  | none => cases hc
  | some v =>
    simp only [hash?] at hc
    split at hc
    · next hv =>
      rw [← Option.some.inj hc, String.toList_ofList]
      simpa using hv.2
    · cases hc

theorem colon_of_requirement {line : List Char} {r : Requirement} (h : requirement line = .ok r) :
    ∀ hash ∈ r.hashes, ':' ∈ hash.toList := by
  rw [requirement_eq] at h
  obtain ⟨hashes, hhashes, h⟩ := ok_of_bind h
  obtain ⟨parts, -, h⟩ := ok_of_bind h
  split at h
  · obtain rfl := Except.ok.inj h
    intro hash hhash
    obtain ⟨c, -, hc⟩ := exists_of_mem_mapM hhashes hhash
    unfold hashOrFlaw at hc
    split at hc
    · next hc' => exact colon_of_hash? (Except.ok.inj hc ▸ hc')
    · cases hc
  · cases h

theorem colon_of_parse {what text : String} {file : Requirements} (h : parse what text = .ok file) :
    ∀ r ∈ file.requirements, ∀ hash ∈ r.hashes, ':' ∈ hash.toList := by
  intro r hr
  obtain ⟨s, -, hs⟩ := exists_of_mem_forall₂ (requirements_of_parse h).flip hr
  exact colon_of_requirement hs

end Requirements

/-! ## The flag -/

theorem checksumOfFragment_append {url fragment algorithm digest : List Char} (hurl : '#' ∉ url)
    (h : Text.cut (· == '=') fragment = some (algorithm, digest)) :
    Component.checksumOfFragment (String.ofList (url ++ '#' :: fragment)) =
      some (String.ofList (algorithm ++ ':' :: digest)) := by
  have hcut : Text.cut (· == '#') (url ++ '#' :: fragment) = some (url, fragment) :=
    Text.cut_beq_eq_some.2 ⟨hurl, rfl⟩
  simp only [Component.checksumOfFragment, String.toList_ofList, hcut, Option.bind_eq_bind,
    Option.bind_some, h, Option.pure_def]

theorem checksumOfFragment_bare {url : List Char} (hurl : '#' ∉ url) :
    Component.checksumOfFragment (String.ofList url) = none := by
  have hcut : Text.cut (· == '#') url = none := Text.cut_beq_eq_none.2 hurl
  simp only [Component.checksumOfFragment, String.toList_ofList, hcut, Option.bind_eq_bind,
    Option.bind_none]

namespace Download

def fragment? (url : List Char) : Option (List Char) := (Text.cut (· == '#') url).map Prod.snd

/-- The hash that a URL or a hash option declares. -/
def declaredHash? (declared : List Char) (firstHash : Option String) : Option (List Char) :=
  ((fragment? declared).filter isHash).or (firstHash.map ofHashOption)

/-- A download has the URL without its fragment, and that with the declared hash for a new one. -/
theorem ofDeclared_eq (declared : String) (firstHash : Option String) :
    ofDeclared declared firstHash =
      let url := declared.toList.takeWhile (· != '#')
      ⟨String.ofList url,
        String.ofList ((declaredHash? declared.toList firstHash).elim url (url ++ '#' :: ·))⟩ := by
  unfold ofDeclared declaredHash? fragment?
  cases hcut : Text.cut (· == '#') declared.toList with
  | none =>
    have hurl : declared.toList.takeWhile (· != '#') = declared.toList :=
      Text.takeWhile_of_cut_none hcut
    simp only [hurl, Option.map_none]
    cases (Option.filter isHash none).or (firstHash.map ofHashOption) <;> rfl
  | some p =>
    have hurl : declared.toList.takeWhile (· != '#') = p.1 := Text.takeWhile_of_cut hcut
    simp only [hurl, Option.map_some]
    cases (Option.filter isHash (some p.2)).or (firstHash.map ofHashOption) <;> rfl

theorem not_mem_takeWhile (declared : List Char) : '#' ∉ declared.takeWhile (· != '#') := fun h =>
  absurd (List.mem_takeWhile_imp h) (by decide)

theorem equals_of_declaredHash? {declared hash : List Char} {firstHash : Option String}
    (hcolon : ∀ h ∈ firstHash, ':' ∈ h.toList) (h : declaredHash? declared firstHash = some hash) :
    '=' ∈ hash := by
  rcases Option.or_eq_some_iff.1 h with hfilter | ⟨-, hfirst⟩
  · have hisHash := (Option.filter_eq_some_iff.1 hfilter).2
    unfold isHash at hisHash
    split at hisHash
    · next hcut =>
      obtain ⟨-, hs⟩ := Text.cut_beq_eq_some.1 hcut
      simp [hs]
    · cases hisHash
  · obtain ⟨option, hoption, rfl⟩ := Option.map_eq_some_iff.1 hfirst
    obtain ⟨algorithm, digest, hcut⟩ := Text.cut_of_mem (hcolon option hoption)
    simp [ofHashOption, hcut]

end Download

theorem ofDeclared_cases (declared : String) {firstHash : Option String}
    (hcolon : ∀ h ∈ firstHash, ':' ∈ h.toList) :
    ∃ url, '#' ∉ url ∧
      (Download.ofDeclared declared firstHash = ⟨String.ofList url, String.ofList url⟩ ∨
        ∃ fragment, '=' ∈ fragment ∧
          Download.ofDeclared declared firstHash =
            ⟨String.ofList url, String.ofList (url ++ '#' :: fragment)⟩) := by
  refine ⟨declared.toList.takeWhile (· != '#'), Download.not_mem_takeWhile _, ?_⟩
  rw [Download.ofDeclared_eq]
  cases hhash : Download.declaredHash? declared.toList firstHash with
  | none => exact .inl rfl
  | some hash => exact .inr ⟨hash, Download.equals_of_declaredHash? hcolon hhash, rfl⟩

/-- A download has a hash exactly when a checksum can be read off the end of its URL. -/
theorem hasHash_ofDeclared (declared : String) {firstHash : Option String}
    (hcolon : ∀ h ∈ firstHash, ':' ∈ h.toList) :
    (Download.ofDeclared declared firstHash).hasHash =
      (Component.checksumOfFragment
        (Download.ofDeclared declared firstHash).urlWithHash).isSome := by
  obtain ⟨url, hurl, hbare | ⟨fragment, hequals, hhashed⟩⟩ := ofDeclared_cases declared hcolon
  · rw [hbare, checksumOfFragment_bare hurl]
    simp [Download.hasHash]
  · obtain ⟨algorithm, digest, hcut⟩ := Text.cut_of_mem hequals
    rw [hhashed, checksumOfFragment_append hurl hcut]
    simp [Download.hasHash]

/-- What is planned for a requirement has a hash exactly when a checksum is declared. -/
theorem Pip.hasHash_of_planOf {indexUrl what place : String} {r : Requirement} {origin : Origin}
    {hasHash : Bool} (hcolon : ∀ h ∈ r.hashes, ':' ∈ h.toList)
    (h : Pip.planOf indexUrl what r = .ok (place, origin, hasHash))
    (ho : ∀ repository, origin ≠ .repository repository) : hasHash = origin.declared?.isSome := by
  have hfirst : ∀ h ∈ r.hashes.head?, ':' ∈ h.toList :=
    fun h hh => hcolon h (List.mem_of_mem_head? hh)
  unfold Pip.planOf at h
  cases hpin : r.pin with
  | version v =>
    rw [hpin] at h
    cases h
    show (!r.hashes.isEmpty) = r.hashes.head?.isSome
    cases r.hashes <;> rfl
  | repository url reference =>
    rw [hpin] at h
    obtain ⟨repository, -, h⟩ := ok_of_bind h
    cases h
    exact absurd rfl (ho repository)
  | url declared =>
    rw [hpin] at h
    simp only at h
    split at h
    · cases h
      exact hasHash_ofDeclared declared hfirst
    · cases h

/-- The artifact of a requirement is flagged exactly when no checksum is declared for it. -/
theorem Pip.missing_eq_declared {s : Surroundings} {a : Artifact} (h : Pip.IsAsked s a)
    (ho : ∀ r, a.origin ≠ .repository r) : a.missingChecksum = a.origin.declared?.isNone := by
  obtain ⟨deps, what, text, file, forBuild, r, hparse, hr, hchecked⟩ := h
  have hcolon := Requirements.colon_of_parse hparse r hr
  obtain ⟨a', hartifact, hchecked⟩ := ok_of_bind hchecked
  obtain ⟨⟨place, origin, hasHash⟩, hplan, hartifact⟩ := ok_of_bind hartifact
  obtain ⟨destination, -, hartifact⟩ := ok_of_bind hartifact
  obtain rfl := Except.ok.inj hartifact
  split at hchecked
  · cases hchecked
  obtain rfl := Except.ok.inj hchecked
  show (!hasHash) = origin.declared?.isNone
  rw [Pip.hasHash_of_planOf hcolon hplan ho, Option.not_isSome]

/-- The artifact of a locked crate is flagged exactly when the lock file has no checksum for it. -/
theorem Cargo.missing_eq_declared {a : Artifact}
    (h : a.missingChecksum = Cargo.lacksChecksum a.origin) (hdownload : ∀ d, a.origin ≠ .download d)
    (ho : ∀ r, a.origin ≠ .repository r) : a.missingChecksum = a.origin.declared?.isNone := by
  rw [h]
  cases ha : a.origin with
  | release r => rfl
  | repository r => exact absurd ha (ho r)
  | download d => exact absurd ha (hdownload d)

/-! ## Recorded or flagged -/

/-- Whether a checksum is declared for an artifact that does not tell what its content is. -/
def Artifact.Hollow (e : Ecosystem) (a : Artifact) : Prop :=
  ∃ checksum, a.origin.declared? = some checksum ∧ ¬ a.origin.Verifies e checksum

theorem missing_eq_declared {s : Surroundings} {request : PackageRequest} {es : List Listed}
    (h : listed s request = .ok es) {a : Artifact} {c : Component} (hac : (some a, c) ∈ es)
    (ho : ∀ r, a.origin ≠ .repository r) : a.missingChecksum = a.origin.declared?.isNone := by
  obtain ⟨directory, -, h⟩ := ok_of_bind h
  cases he : request.ecosystem with
  | cargo =>
    rw [he] at h
    rcases Cargo.listed_cases h _ hac with ⟨_, _, _, heq⟩ | ⟨b, ⟨v, heq⟩, hmissing, hdownload⟩
    · cases heq
    · obtain rfl : a = b := Option.some.inj (congrArg Prod.fst heq)
      exact Cargo.missing_eq_declared hmissing hdownload ho
  | pip =>
    rw [he] at h
    rcases Pip.listed_cases h _ hac with ⟨_, _, _, heq⟩ | ⟨b, ⟨v, heq⟩, hasked⟩
    · cases heq
    · obtain rfl : a = b := Option.some.inj (congrArg Prod.fst heq)
      exact Pip.missing_eq_declared hasked ho

theorem Pip.hash_of_requireHashes {s : Surroundings} {deps : RootedPath} {l : Pip.Listing}
    {text : String} {file : Requirements} {artifacts : List Artifact}
    (hread : l.read s = .ok (some text))
    (hparse : Requirements.parse l.path.subpath text = .ok file)
    (hrequire : file.requireHashes = true) (h : Pip.artifactsOf s deps l = .ok artifacts) :
    ∀ a ∈ artifacts, a.missingChecksum = false ∧ Pip.IsAsked s a := by
  rw [artifactsOf_eq hread hparse] at h
  intro a ha
  obtain ⟨r, hr, hchecked⟩ := exists_of_mem_mapM h ha
  refine ⟨?_, deps, _, text, file, l.forBuild, r, hparse, hr, hchecked⟩
  obtain ⟨a', -, hchecked⟩ := ok_of_bind hchecked
  split at hchecked
  · cases hchecked
  · next hkept =>
    obtain rfl := Except.ok.inj hchecked
    simpa [hrequire] using hkept

/-- Of an artifact that is flagged exactly when no checksum is declared, a digest is recorded
exactly when it is not flagged, but for a checksum that is hollow. -/
theorem recorded_of_missing_eq {e : Ecosystem} {a : Artifact} {v : Option String}
    (h : a.missingChecksum = a.origin.declared?.isNone) :
    ((a.missingChecksum = false ↔ a.Recorded e (Component.ofArtifact e a v)) ↔ ¬ a.Hollow e) ∧
      ¬ (a.missingChecksum = true ∧ a.Recorded e (Component.ofArtifact e a v)) := by
  rw [recorded_iff, h, Artifact.Hollow]
  cases a.origin.declared? with
  | none => simp
  | some checksum => simp

/-- In a resolved package, an artifact of a release or of a download is either recorded with a
digest or flagged, never both, unless the checksum that is declared for it is hollow; and a
requirements file that asks for hashes is accepted only when every requirement declares a checksum,
which is recorded unless it is hollow. -/
theorem recorded_or_flagged_iff (s : Surroundings) :
    (∀ request r, resolvePackage s request = .ok r → ∃ es, Resolution.IsOf s request es r ∧
      ∀ a c, (some a, c) ∈ es → (∀ repository, a.origin ≠ .repository repository) →
        ((a.missingChecksum = false ↔ a.Recorded r.ecosystem c) ↔ ¬ a.Hollow r.ecosystem) ∧
        ¬ (a.missingChecksum = true ∧ a.Recorded r.ecosystem c)) ∧
    ∀ deps l text file artifacts, Pip.Listing.read s l = .ok (some text) →
      Requirements.parse l.path.subpath text = .ok file → file.requireHashes = true →
      Pip.artifactsOf s deps l = .ok artifacts → ∀ a ∈ artifacts, a.missingChecksum = false ∧
        ((∀ repository, a.origin ≠ .repository repository) →
          (a.Recorded .pip (Component.ofArtifact .pip a none) ↔ ¬ a.Hollow .pip)) := by
  constructor
  · intro request r hr
    obtain ⟨es, hlisted, hecosystem, hartifacts, -⟩ := listed_of_resolvePackage hr
    refine ⟨es, ⟨hr, hlisted, hartifacts⟩, fun a c hac ho => ?_⟩
    have hmissing := missing_eq_declared hlisted hac ho
    rcases listed_cases hlisted _ hac with ⟨_, _, _, heq⟩ | ⟨b, v, heq⟩
    · cases heq
    · cases heq
      rw [hecosystem]
      exact recorded_of_missing_eq hmissing
  · intro deps l text file artifacts hread hparse hrequire hartifacts a ha
    obtain ⟨hmissing, hasked⟩ := Pip.hash_of_requireHashes hread hparse hrequire hartifacts a ha
    refine ⟨hmissing, fun ho => ?_⟩
    obtain ⟨hiff, -⟩ :=
      recorded_of_missing_eq (e := .pip) (v := none) (Pip.missing_eq_declared hasked ho)
    rw [← hiff]
    simp [hmissing]

/-! ## A hash without a digest -/

/-- A file that asks for hashes, and a requirement whose hash has no digest. -/
def hollowFirst : String := "--require-hashes\np==1 --hash=sha256:\n"

/-- A requirement with a hash, for the build. -/
def solidSecond : String := "q==2 --hash=sha256:aa\n"

def hollowArtifact : Artifact :=
  ⟨"p", "/out/deps/pip/p-1.tar.gz", "a.txt", false, false,
    .release ⟨defaultPipIndex, .sourceArchive, "1", some "sha256:"⟩⟩

def solidArtifact : Artifact :=
  ⟨"q", "/out/deps/pip/q-2.tar.gz", "b.txt", false, true,
    .release ⟨defaultPipIndex, .sourceArchive, "2", some "sha256:aa"⟩⟩

def hollowFile : Requirements := ⟨none, true, [⟨"p", [], none, ["sha256:"], .version "1"⟩]⟩

theorem parse_hollow : Requirements.parse "a.txt" hollowFirst = .ok hollowFile := by rfl

theorem artifacts_hollow : hollowFile.requirements.mapM
    (Pip.checkedArtifact (listSurroundings hollowFirst solidSecond) listDeps hollowFile
      "a.txt" false) =
      .ok [hollowArtifact] := by
  have hplace :
      listDeps.join (listSurroundings hollowFirst solidSecond).tree (Pip.releaseArchive "p" "1") =
      .ok ⟨["out", "deps", "pip"], ["out", "deps", "pip", "p-1.tar.gz"]⟩ :=
    join_archive ⟨by decide, by simp⟩ rfl
  have hartifact :
      Pip.checkedArtifact (listSurroundings hollowFirst solidSecond) listDeps
        hollowFile "a.txt" false
      ⟨"p", [], none, ["sha256:"], .version "1"⟩ = _ := checkedArtifact_version hplace (by simp)
  rw [hollowFile, List.mapM_cons, ← hollowFile, hartifact]
  rfl

theorem resolvePackage_hollow :
    ∃ r, resolvePackage (listSurroundings hollowFirst solidSecond) listRequest = .ok r ∧
    r.ecosystem = .pip ∧ r.artifacts = [hollowArtifact, solidArtifact] := by
  let second : Requirements := ⟨none, false, [⟨"q", [], none, ["sha256:aa"], .version "2"⟩]⟩
  have hplace :
      listDeps.join (listSurroundings hollowFirst solidSecond).tree (Pip.releaseArchive "q" "2") =
      .ok ⟨["out", "deps", "pip"], ["out", "deps", "pip", "q-2.tar.gz"]⟩ :=
    join_archive ⟨by decide, by simp⟩ rfl
  have hartifact :
      Pip.checkedArtifact (listSurroundings hollowFirst solidSecond) listDeps second "b.txt" true
      ⟨"q", [], none, ["sha256:aa"], .version "2"⟩ = _ := checkedArtifact_version hplace (by simp)
  have hsecond : second.requirements.mapM
      (Pip.checkedArtifact (listSurroundings hollowFirst solidSecond) listDeps
        second "b.txt" true) =
        .ok [solidArtifact] := by
    rw [List.mapM_cons, hartifact]
    rfl
  exact ⟨_, resolvePackage_list parse_hollow (by rfl) artifacts_hollow hsecond, rfl, rfl⟩

theorem recorded_or_flagged_solid : ∃ r,
    resolvePackage (listSurroundings hollowFirst solidSecond) listRequest = .ok r ∧
    solidArtifact ∈ r.artifacts ∧
    solidArtifact.Recorded .pip (Component.ofArtifact .pip solidArtifact none) ∧
    hollowFile.requireHashes = true ∧ hollowArtifact.missingChecksum = false := by
  obtain ⟨r, hr, hecosystem, hartifacts⟩ := resolvePackage_hollow
  have hmem : solidArtifact ∈ r.artifacts := by simp [hartifacts]
  refine ⟨r, hr, hmem, ?_, rfl, ?_⟩
  · obtain ⟨es, hes, hall⟩ := (recorded_or_flagged_iff _).1 listRequest r hr
    rw [hes.artifacts] at hmem
    obtain ⟨⟨_, c⟩, hx, rfl⟩ := List.mem_filterMap.1 hmem
    have hsolid : ¬ solidArtifact.Hollow .pip := by
      rintro ⟨checksum, hchecksum, hverifies⟩
      obtain rfl : "sha256:aa" = checksum := Option.some.inj hchecksum
      exact hverifies ⟨"sha256".toList, "aa".toList, by rfl, by decide, by decide⟩
    obtain ⟨hiff, -⟩ := hall solidArtifact c hx nofun
    rw [hecosystem] at hiff
    exact (hiff.2 hsolid).1 rfl
  · exact ((recorded_or_flagged_iff (listSurroundings hollowFirst solidSecond)).2 listDeps
      ⟨⟨["src"], ["src", "a.txt"]⟩, false, true⟩ hollowFirst hollowFile [hollowArtifact] read_first
        parse_hollow rfl
      ((artifactsOf_eq read_first parse_hollow).trans artifacts_hollow) hollowArtifact (by simp)).1

/-- The first requirement is accepted, and its artifact is neither flagged nor recorded with a
digest. -/
theorem neither_recorded_nor_flagged_hollow : ∃ r,
    resolvePackage (listSurroundings hollowFirst solidSecond) listRequest = .ok r ∧
    hollowArtifact ∈ r.artifacts ∧
    Requirements.parse "a.txt" hollowFirst = .ok hollowFile ∧ hollowFile.requireHashes = true ∧
    (∀ repository, hollowArtifact.origin ≠ .repository repository) ∧
    hollowArtifact.missingChecksum = false ∧
    ¬ hollowArtifact.Recorded r.ecosystem
      (Component.ofArtifact r.ecosystem hollowArtifact none) := by
  obtain ⟨r, hr, hecosystem, hartifacts⟩ := resolvePackage_hollow
  refine ⟨r, hr, by simp [hartifacts], parse_hollow, rfl, nofun, rfl, ?_⟩
  rw [hecosystem]
  rintro ⟨checksum, hchecksum, algorithm, digest, hcut, -, hdigest⟩
  obtain rfl : "sha256:" = checksum := Option.some.inj hchecksum
  have hhollow : Text.cut (· == ':') "sha256:".toList = some ("sha256".toList, []) := by rfl
  rw [hhollow] at hcut
  cases hcut
  exact hdigest rfl

end FetchPlan
