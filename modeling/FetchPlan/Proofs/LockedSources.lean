import FetchPlan.Proofs.DependencyAccounts

/-!
Where locked crates come from. A text is read as a source exactly when it says that source
(`ofText_eq_ok_iff`), and any other text is refused (`error_ofText`). What is read of an entry of
a lock file is the string under `source`: its crate is taken for one of the source tree exactly
when there is none, and else it comes from where the string says or refuses the package
(`locked_sources_read`). So an entry whose source is no string, such as an array, loses its
artifact (`array_taken_for_here`).

What is proved of every lock file that is accepted: row by row, what is read of the source, and
what a package with that file gets or why it is refused. The first crate whose source is refused
decides, as long as everything before it is well.
-/
namespace FetchPlan

open Toml

/-! ## Texts of sources -/

namespace CrateSource

/-- The query of a locator, after its question mark. -/
def queryText : Option (List Char) → List Char
  | none => []
  | some query => '?' :: query

/-- Which source a text says. -/
inductive Says : List Char → CrateSource → Prop where
  | registry {index : List Char} (h : index ≠ []) :
    Says ("registry+".toList ++ index) (.registry (String.ofList index))
  | sparse {index : List Char} (h : index ≠ []) :
    Says ("sparse+".toList ++ index) (.registry (String.ofList ("sparse+".toList ++ index)))
  | git {url commit : List Char} {query : Option (List Char)} (hurl : url ≠ []) (hmark : '?' ∉ url)
    (hplain : '#' ∉ url ++ queryText query) (hcommit : commit ≠ []) :
    Says ("git+".toList ++ (url ++ queryText query ++ '#' :: commit))
      (.git (String.ofList url) (query.map String.ofList) (String.ofList commit))

theorem Says.ne_here {s : List Char} {source : CrateSource} (h : Says s source) :
    source ≠ .here := by
  cases h <;> nofun

theorem Says.index_ne_empty {s : List Char} {indexUrl : String} (h : Says s (.registry indexUrl)) :
    indexUrl ≠ "" := by
  cases h with
  | registry hne => simpa using hne
  | sparse _ => simp

theorem exists_query (locator : List Char) :
    ∃ url query, locator = url ++ queryText query ∧ '?' ∉ url := by
  cases hcut : Text.cut (· == '?') locator with
  | none => exact ⟨locator, none, (List.append_nil locator).symm, Text.cut_beq_eq_none.1 hcut⟩
  | some p =>
    obtain ⟨hurl, hlocator⟩ := Text.cut_beq_eq_some.1 hcut
    exact ⟨p.1, some p.2, hlocator, hurl⟩

theorem gitOfText_append (v : String) {url commit : List Char} {query : Option (List Char)}
    (hmark : '?' ∉ url) (hplain : '#' ∉ url ++ queryText query) :
    gitOfText v (url ++ queryText query ++ '#' :: commit) =
      if commit = [] then .error (.unexpectedFormat v "git source without resolved commit")
      else if url = [] then .error (.unexpectedFormat v "git source without repository URL")
      else .ok (.git (String.ofList url) (query.map String.ofList) (String.ofList commit)) := by
  have hcommit : Text.cut (· == '#') (url ++ queryText query ++ '#' :: commit) =
      some (url ++ queryText query, commit) := Text.cut_beq_eq_some.2 ⟨hplain, rfl⟩
  simp only [gitOfText, hcommit]
  cases query with
  | none =>
    have hquery : Text.cut (· == '?') url = none := Text.cut_beq_eq_none.2 hmark
    simp only [queryText, List.append_nil, hquery, Option.map_none]
  | some query =>
    have hquery : Text.cut (· == '?') (url ++ queryText (some query)) = some (url, query) :=
      Text.cut_beq_eq_some.2 ⟨hmark, rfl⟩
    simp only [hquery, Option.map_some]

theorem says_of_gitOfText {v : String} {rest : List Char} {source : CrateSource}
    (h : gitOfText v rest = .ok source) : Says ("git+".toList ++ rest) source := by
  cases hcut : Text.cut (· == '#') rest with
  | none =>
    rw [gitOfText, hcut] at h
    cases h
  | some p =>
    obtain ⟨locator, commit⟩ := p
    obtain ⟨hplain, rfl⟩ := Text.cut_beq_eq_some.1 hcut
    obtain ⟨url, query, rfl, hmark⟩ := exists_query locator
    rw [gitOfText_append v hmark hplain] at h
    split at h
    · cases h
    · next hcommit =>
      split at h
      · cases h
      · next hurl =>
        cases h
        exact .git hurl hmark hplain hcommit

theorem ofText_eq_ok_iff {v : String} {source : CrateSource} :
    ofText v = .ok source ↔ Says v.toList source := by
  constructor
  · intro h
    unfold ofText at h
    split at h
    · cases h
    · next index hne hafter =>
      cases h
      rw [Text.eq_of_isPrefixOf? hafter]
      exact .registry hne
    split at h
    · cases h
    · next index hne hafter =>
      cases h
      have htext := Text.eq_of_isPrefixOf? hafter
      have hv : v = String.ofList ("sparse+".toList ++ index) := by
        rw [← htext, String.ofList_toList]
      rw [hv, String.toList_ofList]
      exact .sparse hne
    split at h
    · next rest hafter =>
      rw [Text.eq_of_isPrefixOf? hafter]
      exact says_of_gitOfText h
    · cases h
  · intro h
    generalize hs : v.toList = s at h
    unfold ofText
    rw [hs]
    cases h with
    | @registry index hne =>
      rw [Text.after?_append]
      cases index with
      | nil => exact absurd rfl hne
      | cons c index => rfl
    | @sparse index hne =>
      have hregistry : Text.after? "registry+" ("sparse+".toList ++ index) = none := rfl
      have hv : v = String.ofList ("sparse+".toList ++ index) := by rw [← hs, String.ofList_toList]
      rw [hregistry, Text.after?_append]
      cases index with
      | nil => exact absurd rfl hne
      | cons c index => rw [hv]
    | @git url commit query hurl hmark hplain hcommit =>
      have hregistry :
          Text.after? "registry+"
            ("git+".toList ++ (url ++ queryText query ++ '#' :: commit)) = none := rfl
      have hsparse :
          Text.after? "sparse+"
            ("git+".toList ++ (url ++ queryText query ++ '#' :: commit)) = none := rfl
      rw [hregistry, hsparse, Text.after?_append]
      simp only
      rw [gitOfText_append v hmark hplain, if_neg hcommit, if_neg hurl]

theorem error_ofText {v : String} {e : Error} (h : ofText v = .error e) :
    ∃ reason, e = .unexpectedFormat v reason := by
  unfold ofText gitOfText at h
  grind

/-- A crate is taken for one of the source tree exactly when no source is read of it. -/
theorem ofLocked_eq_here_iff {source : Option String} :
    ofLocked source = .ok .here ↔ source = none := by
  cases source with
  | none => exact ⟨fun _ => rfl, fun _ => rfl⟩
  | some v =>
    refine ⟨fun h => absurd rfl (ofText_eq_ok_iff.1 h).ne_here, nofun⟩

end CrateSource

/-! ## Entries of a lock file -/

namespace Lockfile

/-- What is read of the source of an entry: the string that it is. -/
structure ReadsSource (row : Entries) (c : LockedCrate) : Prop where
  here_iff : CrateSource.ofLocked c.source = .ok .here ↔ row.string? "source" = none
  said_iff : ∀ v, row.string? "source" = some v → ∀ source,
    CrateSource.ofLocked c.source = .ok source ↔ CrateSource.Says v.toList source
  refused : ∀ v, row.string? "source" = some v → ∀ e, CrateSource.ofLocked c.source = .error e →
    ∃ reason, e = .unexpectedFormat v reason

/-- Whether a crate is taken for one of the source tree exactly when its entry has no source. -/
def KeepsSource (row : Entries) (c : LockedCrate) : Prop :=
  CrateSource.ofLocked c.source = .ok .here ↔ row.lookup "source" = none

theorem source_of_crate {row : Entries} {c : LockedCrate} (h : crate row = .ok c) :
    c.source = row.string? "source" := by
  obtain ⟨name, -, h⟩ := ok_of_bind h
  obtain ⟨version, -, h⟩ := ok_of_bind h
  rw [← Except.ok.inj h]

theorem readsSource_of_crate {row : Entries} {c : LockedCrate} (h : crate row = .ok c) :
    ReadsSource row c := by
  have hsource := source_of_crate h
  refine ⟨by rw [CrateSource.ofLocked_eq_here_iff, hsource], fun v hv => ?_, fun v hv => ?_⟩
  · rw [hsource, hv]
    exact fun source => CrateSource.ofText_eq_ok_iff
  · rw [hsource, hv]
    exact fun e => CrateSource.error_ofText

/-- Only a source that is no string is lost. -/
theorem keepsSource_iff {row : Entries} {c : LockedCrate} (h : crate row = .ok c) :
    KeepsSource row c ↔ ∀ node, row.lookup "source" = some node → node.string? ≠ none := by
  rw [KeepsSource, CrateSource.ofLocked_eq_here_iff, source_of_crate h, Entries.string?]
  cases row.lookup "source" with
  | none => simp
  | some node => simp

theorem crates_of_parse {text : String} {crates : List LockedCrate} (h : parse text = .ok crates) :
    List.Forall₂ (fun row c => crate row = .ok c) ((rows? text).getD []) crates := by
  cases hrows : rows? text with
  | some rows =>
    rw [parse_eq_mapM hrows] at h
    exact mapM_eq_ok_iff.1 h
  | none =>
    obtain ⟨root, hroot, h⟩ := ok_of_bind h
    unfold rows? at hrows
    rw [hroot] at hrows
    simp only at hrows
    split at hrows
    · cases hrows
    · next hnoRows =>
      split at h
      · rw [← Except.ok.inj h]
        exact .nil
      · next rows hlookup => exact absurd hlookup (hnoRows rows)
      · cases h

end Lockfile

namespace Cargo

variable {s : Surroundings} {directory lockPath : RootedPath} {text : String}
    {crates : List LockedCrate}

/-- A package that is resolved has an artifact for each crate with a source. -/
theorem artifact_of_source {r : Resolution} (hresolve : resolve s directory = .ok r)
    (hlock : directory.join s.tree Lockfile.fileName = .ok lockPath)
    (hread : s.readText lockPath = .ok text) (hparse : Lockfile.parse text = .ok crates)
    {c : LockedCrate} (hc : c ∈ crates) (hsource : c.source ≠ none) :
    ∃ a ∈ r.artifacts, c.Gives lockPath.subpath a := by
  obtain ⟨lockPath', crates', entries, hreads, -, hentries, -⟩ := accounted_of_resolve hresolve
  obtain ⟨text', hread', hparse'⟩ := hreads.locked
  obtain rfl := Except.ok.inj (hlock.symm.trans hreads.located)
  obtain rfl := Except.ok.inj (hread.symm.trans hread')
  obtain rfl := Except.ok.inj (hparse.symm.trans hparse')
  obtain ⟨e, -, hcomponent⟩ := exists_of_mem_forall₂ hentries hc
  cases hcomponent with
  | here hhere => exact absurd (CrateSource.ofLocked_eq_here_iff.1 hhere) hsource
  | fetched ha hgives => exact ⟨_, ha, hgives⟩

/-- A package is refused with the first of its crates whose source is, when all before that is
well. -/
theorem resolve_of_refused {identity : Identity} {checkout : Option Checkout} {deps : RootedPath}
    {before after : List LockedCrate} {c : LockedCrate} {e : Error}
    (hreads : Reads s directory identity lockPath (before ++ c :: after))
    (hcheckout : s.provenanceOf directory = .ok checkout)
    (hdeps : s.outputDir.reRoot s.tree depsDir = .ok deps)
    (hbefore : ∀ b ∈ before, ∃ x, entryOf s deps lockPath.subpath checkout b = .ok x)
    (h : CrateSource.ofLocked c.source = .error e) : resolve s directory = .error e := by
  obtain ⟨manifestPath, manifest, hmanifest, hmanifestText, hidentity⟩ := hreads.manifest
  obtain ⟨lock, hlockText, hcrates⟩ := hreads.locked
  have hentry : entryOf s deps lockPath.subpath checkout c = .error e := by
    simp only [entryOf, originOf, h, bind, Except.bind]
  have hentries := mapM_append_error hentry after hbefore
  simp only [resolve, hmanifest, hmanifestText, hidentity, hreads.located, hlockText, hcrates,
    hcheckout, hdeps, hentries, bind, Except.bind]

end Cargo

open Lockfile

/-- Of each entry of a lock file that is accepted, the string under `source` is read: its crate is
taken for one of the source tree exactly when there is none, else it comes from where the string
says, or it is refused by that string. So an entry with a source is taken for a crate of the source
tree exactly when the source is no string. A package that is resolved has an artifact for each
crate whose source is a string, and it is refused with the first crate whose source is. -/
theorem locked_sources_read {text : String} {crates : List LockedCrate}
    (h : Lockfile.parse text = .ok crates) :
    List.Forall₂ (fun row c => ReadsSource row c ∧
        (KeepsSource row c ↔ ∀ node, row.lookup "source" = some node → node.string? ≠ none))
      ((rows? text).getD []) crates ∧
    ∀ s directory lockPath, directory.join s.tree fileName = .ok lockPath →
      s.readText lockPath = .ok text →
      (∀ r, Cargo.resolve s directory = .ok r →
        List.Forall₂ (fun row c => row.string? "source" ≠ none →
        ∃ a ∈ r.artifacts, c.Gives lockPath.subpath a) ((rows? text).getD []) crates) ∧
      ∀ identity checkout deps before c after e, Cargo.Reads s directory identity lockPath crates →
        s.provenanceOf directory = .ok checkout →
        s.outputDir.reRoot s.tree Cargo.depsDir = .ok deps →
          crates = before ++ c :: after →
            (∀ b ∈ before, ∃ x, Cargo.entryOf s deps lockPath.subpath checkout b = .ok x) →
              CrateSource.ofLocked c.source = .error e → Cargo.resolve s directory = .error e := by
  have hrows := crates_of_parse h
  refine ⟨hrows.imp fun row c hc => ⟨readsSource_of_crate hc, keepsSource_iff hc⟩, ?_⟩
  intro s directory lockPath hlock hread
  constructor
  · intro r hresolve
    have hcrates :
        List.Forall₂ (fun row c => c ∈ crates ∧ crate row = .ok c) ((rows? text).getD []) crates :=
      ((List.forall₂_and_left _ _).2 ⟨fun c hc => hc, hrows.flip⟩).flip
    refine hcrates.imp fun row c ⟨hc, hrow⟩ hsource => ?_
    exact Cargo.artifact_of_source hresolve hlock hread h hc (source_of_crate hrow ▸ hsource)
  · rintro identity checkout deps before c after e hreads hcheckout hdeps rfl hbefore he
    exact Cargo.resolve_of_refused hreads hcheckout hdeps hbefore he

/-! ## Sources that are refused, and sources that are lost -/

section Sources

def strangeCrates : List LockedCrate :=
  [⟨"app", "1", none, none⟩, ⟨"rand", "2", some "svn+h", none⟩]

theorem locked_sources_read_strange :
    let outside (place : String) : Except Error Checkout := .error (.notAGitRepo place)
    let s := Cargo.crateSurroundings kindsManifest (lockText strangeCrates) .permissive outside
    Lockfile.parse (lockText strangeCrates) = .ok strangeCrates ∧
    List.Forall₂ (fun row c => ReadsSource row c ∧
        (KeepsSource row c ↔ ∀ node, row.lookup "source" = some node → node.string? ≠ none))
      ((rows? (lockText strangeCrates)).getD []) strangeCrates ∧
    Cargo.resolve s ⟨["src"], ["src"]⟩ =
      .error (.unexpectedFormat "svn+h" "unrecognized source kind") := by
  intro outside s
  have hparse : Lockfile.parse (lockText strangeCrates) = .ok strangeCrates :=
    parse_lockText strangeCrates
  have hreads : Cargo.Reads s ⟨["src"], ["src"]⟩ ⟨"app", none⟩ ⟨["src"], ["src", "Cargo.lock"]⟩
      strangeCrates :=
    Cargo.reads_crate (Manifest.cargoIdentity_manifestText _ _) hparse
  have hcheckout : s.provenanceOf ⟨["src"], ["src"]⟩ = .ok none := rfl
  have hsource : CrateSource.ofLocked (some "svn+h") =
      .error (.unexpectedFormat "svn+h" "unrecognized source kind") :=
    rfl
  obtain ⟨hrows, hresolve⟩ := locked_sources_read hparse
  obtain ⟨-, hrefused⟩ := hresolve s ⟨["src"], ["src"]⟩ _ Cargo.join_lock Cargo.readText_lock
  refine ⟨hparse, hrows, ?_⟩
  refine hrefused _ _ _ [⟨"app", "1", none, none⟩] ⟨"rand", "2", some "svn+h", none⟩ [] _ hreads
    hcheckout Cargo.reRoot_crateDeps rfl ?_ hsource
  intro b hb
  obtain rfl := List.mem_singleton.1 hb
  exact ⟨_, rfl⟩

def arrayFields : List (String × Sanitize.Kept) :=
  [("name", .string "a"), ("version", .string "1"), ("source", .list ["registry+https://i"])]

/-- An entry whose source is an array is taken for a crate of the source tree, and the package is
resolved without an artifact for it. -/
theorem array_taken_for_here :
    let outside (place : String) : Except Error Checkout := .error (.notAGitRepo place)
    let s := Cargo.crateSurroundings kindsManifest (rowsText [arrayFields]) .permissive outside
    Lockfile.parse (rowsText [arrayFields]) = .ok [⟨"a", "1", none, none⟩] ∧
    rows? (rowsText [arrayFields]) = some [fieldNodes arrayFields] ∧
    ¬ KeepsSource (fieldNodes arrayFields) ⟨"a", "1", none, none⟩ ∧
    ∃ r, resolvePackage s (PackageRequest.simple .cargo ".") = .ok r ∧ r.artifacts = [] := by
  intro outside s
  have hdocument :
      Toml.parse? (rowsText [arrayFields]) = some [("package", .tables [fieldNodes arrayFields])] :=
    parse?_rowsText (by simp [arrayFields])
  have hroot : Manifest.document fileName (rowsText [arrayFields]) =
      .ok [("package", .tables [fieldNodes arrayFields])] := by
    rw [Manifest.document, hdocument]
  have hrows : rows? (rowsText [arrayFields]) = some [fieldNodes arrayFields] := by
    unfold rows?
    rw [hroot]
    rfl
  have hparse : Lockfile.parse (rowsText [arrayFields]) = .ok [⟨"a", "1", none, none⟩] := by
    rw [parse_eq_mapM hrows]
    rfl
  have hentries :
      [(⟨"a", "1", none, none⟩ : LockedCrate)].mapM
        (Cargo.entryOf s Cargo.crateDeps "Cargo.lock" none) =
      .ok [(none, Component.ofLocal .cargo "a" (some "1") none)] := rfl
  refine ⟨hparse, hrows, ?_, ?_⟩
  · rw [keepsSource_iff (by rfl)]
    exact fun h => h _ rfl rfl
  · exact ⟨_, Cargo.resolve_crate (Manifest.cargoIdentity_manifestText _ _) hparse rfl hentries,
      rfl⟩

end Sources

end FetchPlan
