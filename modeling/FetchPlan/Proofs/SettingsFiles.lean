import FetchPlan.Command.Execute
import FetchPlan.Proofs.FlatSources
import FetchPlan.Proofs.GrownTrees
import FetchPlan.Proofs.PackageEntries

/-!
The files of safe settings that a run writes. Their paths lead to one directory and by a name for
each number on from there (`eq_settingsPlace`), so writing them leaves each file as it was or with
the settings of its number (`WroteSettings.cons`, `wroteSettings_of_writeAll`). A run that ends
early only makes directories (`resolve_cases`). Whatever its exit code, a run leaves the file of a
number as it was unless its package there has settings (`keeps_of_resolve`), and one that reports
leaves the settings of its report (`holds_of_resolve`).

Assumed of a run (`Apart`): the path of its settings leads to one directory, none of the files
there is a link, and the report goes elsewhere. The program for repositories and the threads are
any.
-/
namespace FetchPlan

open Files Files.Tree

/-! ## Settings that are written -/

/-- The safe settings that are written for a package: those of a cargo package. -/
def Ecosystem.settings? (e : Ecosystem) (config : Option String) :
    Option String := if e = .cargo then config else none

/-- The safe settings of the package at a place in a report. -/
def Report.settingsAt (r : Report) (n : Nat) : Option String :=
  r.packages[n]?.bind fun p => p.ecosystem.settings? p.sanitizedConfig

namespace Command

/-- The place of a file of safe settings, from that of their directory. -/
def settingsPlace (directory : Place) (n : Nat) :
    Place := directory ++ [toString n ++ "-config.toml"]

def reportPath (o : ResolveOptions) : String := o.reportOut.getD (joinText o.outputDir reportFile)

/-- Whether a run keeps the files of safe settings apart in a directory: its path of settings leads
there, none of the files is a link, and the report goes elsewhere. -/
structure Apart (t : Tree) (o : ResolveOptions) (directory : Place) : Prop where
  leads : t.PointsTo (joinText o.outputDir configDir) directory
  noLink : ∀ n target, t.lookup (settingsPlace directory n) ≠ some (.link target)
  report : ∀ n, ¬ t.PointsTo (reportPath o) (settingsPlace directory n)

/-- What a run finds out, whether or not it can then be written. -/
def outcome? (t : Tree) (git : Git) (threads : Threads) (o : ResolveOptions) : Option Outcome :=
  if t.isDirectory o.sourceDir then do
    let settings ← (settingsText t o).toOption
    let t ← (makeDirectories t o.outputDir).toOption
    (run t threads (git.checkout t)
      ⟨o.sourceDir, o.outputDir, settings, ⟨o.mode, o.maxParallel, o.packages⟩⟩).toOption
  else none

variable {t t₀ u v : Tree} {o : ResolveOptions} {directory : Place} {outputDir : String} {git : Git}
  {threads : Threads}

/-! ## Places of the files -/

theorem isName_settings (n : Nat) : IsName (toString n ++ "-config.toml") := by
  apply isName_of_dash
  · simp
  · have hdigits : '/' ∉ (toString n).toList := by
      intro hslash
      rw [Nat.toString_eq_repr, Nat.toList_repr] at hslash
      exact absurd (Nat.isDigit_of_mem_toDigits (by decide) (by decide) hslash) (by decide)
    simpa using hdigits

theorem settingsPlace_inj {m n : Nat} :
    settingsPlace directory m = settingsPlace directory n ↔ m = n := by
  refine ⟨fun h => ?_, congrArg _⟩
  have hnames := List.append_cancel_left h
  simp only [List.cons.injEq, and_true] at hnames
  -- the number is read back from its digits
  have hdigits := congrArg String.toList hnames
  simp only [String.toList_append, Nat.toString_eq_repr, Nat.toList_repr] at hdigits
  have hnumbers := congrArg (fun ds => Nat.ofDigitChars 10 ds 0) (List.append_cancel_right hdigits)
  simpa using hnumbers

theorem eq_settingsPlace {n : Nat} {p : Place}
    (hdirectory : t.PointsTo (joinText outputDir configDir) directory)
    (hlink : ∀ target, t.lookup (settingsPlace directory n) ≠ some (.link target))
    (h : t.PointsTo (configPath outputDir n) p) : p = settingsPlace directory n := by
  have hname := isName_settings n
  have hrelative : isAbsolute (toString n ++ "-config.toml") = false :=
    isAbsolute_of_noSlash hname.noSlash
  have hcomponents : components (configPath outputDir n) =
      components (joinText outputDir configDir) ++ [toString n ++ "-config.toml"] := by
    rw [configPath, components_joinText hrelative, components_name hname]
  have hstart : start t.workingDirectory (configPath outputDir n) =
      start t.workingDirectory (joinText outputDir configDir) := by
    unfold start configPath
    rw [isAbsolute_joinText_relative _ hrelative]
  have hleads : Leads t (start t.workingDirectory (joinText outputDir configDir))
      (components (joinText outputDir configDir) ++ [toString n ++ "-config.toml"]) p := by
    rw [← hcomponents, ← hstart]
    exact leads_filter h
  -- the way goes through the directory of settings, and on from there by the name
  obtain ⟨m, hm, hrest⟩ := leads_append.1 hleads
  obtain rfl := hm.unique (leads_filter hdirectory)
  exact hrest.eq_of_name hname hlink

/-! ## Writing files -/

theorem wrote_of_writeFile {path text : String} (h : writeFile t path text = .ok u) :
    ∃ p, Wrote t u path (Text.utf8 text.toList) p := by
  unfold writeFile at h
  cases hparent : parent? path with
  | none =>
    rw [hparent] at h
    exact Tree.wrote_of_writeFile (ok_of_mapError h)
  | some above =>
    rw [hparent] at h
    obtain ⟨v, hv, h⟩ := ok_of_bind h
    obtain ⟨p, hp⟩ := Tree.wrote_of_writeFile (ok_of_mapError h)
    exact ⟨p, hp.of_made (made_of_makeDirectories (ok_of_mapError hv))⟩

def numbered (rs : List Resolution) (i : Nat) : List (Nat × String) :=
  (rs.zipIdx i).filterMap fun (r, n) =>
    (r.ecosystem.settings? r.sanitizedConfig).map fun text => (n, text)

theorem mem_numbered {rs : List Resolution} {n : Nat} {text : String} : (n, text) ∈ numbered rs 0 ↔
    (rs[n]?.bind fun r => r.ecosystem.settings? r.sanitizedConfig) = some text := by
  simp only [numbered, List.mem_filterMap, Prod.exists, List.mem_zipIdx_iff_getElem?,
    Option.map_eq_some_iff, Prod.mk.injEq, Option.bind_eq_some_iff]
  constructor
  · rintro ⟨r, _, hr, _, htext, rfl, rfl⟩
    exact ⟨r, hr, htext⟩
  · rintro ⟨r, hr, htext⟩
    exact ⟨r, n, hr, text, htext, rfl, rfl⟩

theorem configFiles_eq : ∀ (rs : List Resolution) (i : Nat),
    configFiles outputDir i rs = (numbered rs i).map fun (n, text) => (configPath outputDir n, text)
  | [], _ => rfl
  | r :: rs, i => by
    have ih := configFiles_eq rs (i + 1)
    unfold configFiles
    split
    · next text hcargo htext => simp [numbered, hcargo, htext, Ecosystem.settings?, ih]
    · next hnot =>
      have hnone : r.ecosystem.settings? r.sanitizedConfig = none := by
        unfold Ecosystem.settings?
        split
        · next hcargo =>
          exact Option.eq_none_iff_forall_ne_some.2 fun text htext => hnot text hcargo htext
        · rfl
      simp [numbered, hnone, ih]

/-- Whether the file of safe settings of a number is found where it should stand, with a text. -/
def Holds (t : Tree) (outputDir : String) (directory : Place) (n : Nat) (text : String) : Prop :=
  t.reach true (configPath outputDir n) =
    .ok (.found (settingsPlace directory n) (.file (Text.utf8 text.toList)))

theorem Holds.content? {n : Nat} {text : String} (h : Holds t outputDir directory n text) :
    t.content? (settingsPlace directory n) = some (Text.utf8 text.toList) := by
  have hp := (pointsTo_of_reach h).2.2 _ _ rfl
  unfold Tree.content?
  rw [hp]

/-- What writing safe settings does: the file of each number is left as it was or holds settings of
that number, and unless something failed it is there for each number that has some. -/
structure WroteSettings (t u : Tree) (outputDir : String) (directory : Place)
    (files : List (Nat × String)) (failure : Option WriteFailure) : Prop where
  grows : Grows t u
  keeps : ∀ n, u.content? (settingsPlace directory n) = t.content? (settingsPlace directory n) ∨
    ∃ text, (n, text) ∈ files ∧
      u.content? (settingsPlace directory n) = some (Text.utf8 text.toList)
  holds : failure = none → ∀ n text, (n, text) ∈ files →
    ∃ text', (n, text') ∈ files ∧ Holds u outputDir directory n text'

namespace WroteSettings

variable {files : List (Nat × String)} {failure : Option WriteFailure}

theorem start (hholds : failure = none → files = []) :
    WroteSettings t t outputDir directory files failure := by
  refine ⟨.refl t, fun _ => .inl rfl, fun hnone n text hfile => ?_⟩
  rw [hholds hnone] at hfile
  cases hfile

theorem cons {n : Nat} {text : String}
    (hwrote : Wrote t v (configPath outputDir n) (Text.utf8 text.toList)
      (settingsPlace directory n))
    (h : WroteSettings v u outputDir directory files failure) :
    WroteSettings t u outputDir directory ((n, text) :: files) failure := by
  have hcontent : v.content? (settingsPlace directory n) = some (Text.utf8 text.toList) := by
    rw [hwrote.content, if_pos rfl]
  refine ⟨hwrote.grows.trans h.grows, fun m => ?_, fun hnone m text' hfile => ?_⟩
  · rcases h.keeps m with hkept | ⟨text', hfile, hm⟩
    · by_cases hmn : m = n
      · subst hmn
        exact .inr ⟨text, List.mem_cons_self, hkept.trans hcontent⟩
      · left
        rw [hkept, hwrote.content, if_neg fun h => hmn (settingsPlace_inj.1 h)]
    · exact .inr ⟨text', List.mem_cons_of_mem _ hfile, hm⟩
  · rcases List.mem_cons.1 hfile with hhead | hfile
    · -- the path of the first file still leads there, whatever was written to it again
      obtain ⟨rfl, rfl⟩ := Prod.mk.inj hhead
      rcases h.keeps m with hkept | ⟨text'', hfile', hm⟩
      · exact ⟨text', List.mem_cons_self, hwrote.reach_grown h.grows (hkept.trans hcontent)⟩
      · exact ⟨text'', List.mem_cons_of_mem _ hfile', hwrote.reach_grown h.grows hm⟩
    · obtain ⟨text'', hfile', hm⟩ := h.holds hnone m text' hfile
      exact ⟨text'', List.mem_cons_of_mem _ hfile', hm⟩

theorem elsewhere {path : String} {content : List UInt8} {p : Place}
    (h : WroteSettings t u outputDir directory files failure) (hwrote : Wrote u v path content p)
    (hp : ∀ n, p ≠ settingsPlace directory n) :
    WroteSettings t v outputDir directory files failure := by
  have hkept : ∀ n,
      v.content? (settingsPlace directory n) = u.content? (settingsPlace directory n) := by
    intro n
    rw [hwrote.content, if_neg (hp n).symm]
  refine ⟨h.grows.trans hwrote.grows, fun n => ?_, fun hnone n text hfile => ?_⟩
  · rw [hkept]
    exact h.keeps n
  · obtain ⟨text', hfile', hholds⟩ := h.holds hnone n text hfile
    have hlookup := lookup_of_content? ((hkept n).trans hholds.content?)
    exact ⟨text', hfile', reach_grown hwrote.grows hholds hlookup (by simp)⟩

end WroteSettings

theorem wroteSettings_of_writeAll
    (hdirectory : t₀.PointsTo (joinText outputDir configDir) directory)
    (hlink : ∀ n target, t₀.lookup (settingsPlace directory n) ≠ some (.link target)) :
    ∀ {files : List (Nat × String)} {t : Tree} {failure : Option WriteFailure}, Grows t₀ t →
      writeAll t (files.map fun (n, text) => (configPath outputDir n, text)) = (u, failure) →
      WroteSettings t u outputDir directory files failure
  | [], t, failure, _, h => by
    obtain ⟨rfl, rfl⟩ := Prod.mk.inj h
    exact .start fun _ => rfl
  | (n, text) :: files, t, failure, hgrown, h => by
    rw [List.map_cons] at h
    unfold writeAll at h
    split at h
    · next v hv =>
      obtain ⟨p, hwrote⟩ := wrote_of_writeFile hv
      obtain rfl : p = settingsPlace directory n :=
        eq_settingsPlace hdirectory (hlink n) (hgrown.pointsTo hwrote.pointsTo)
      exact .cons hwrote (wroteSettings_of_writeAll hdirectory hlink (hgrown.trans hwrote.grows) h)
    · obtain ⟨rfl, rfl⟩ := Prod.mk.inj h
      exact .start fun hnone => by cases hnone

/-! ## One run -/

/-- What a run does: it ends early and only makes directories, or it writes what it has found out.
-/
theorem resolve_cases (t : Tree) (git : Git) (threads : Threads) (o : ResolveOptions) :
    (outcome? t git threads o = none ∧ ∃ u e, Made t u ∧ resolve t git threads o = .ofFailure u e) ∨
    ∃ u outcome, outcome? t git threads o = some outcome ∧ Made t u ∧
      resolve t git threads o = writeOutcome u o outcome := by
  unfold resolve outcome?
  cases t.isDirectory o.sourceDir with
  | false => exact .inl ⟨rfl, t, _, .refl t, rfl⟩
  | true =>
    cases hsettings : settingsText t o with
    | error e => exact .inl ⟨rfl, t, _, .refl t, rfl⟩
    | ok settings =>
      cases hmake : makeDirectories t o.outputDir with
      | error e => exact .inl ⟨rfl, t, _, .refl t, rfl⟩
      | ok u =>
        have hmade : Made t u := made_of_makeDirectories (ok_of_mapError hmake)
        cases hrun : run u threads (git.checkout u)
            ⟨o.sourceDir, o.outputDir, settings, ⟨o.mode, o.maxParallel, o.packages⟩⟩ with
        | error e =>
          refine .inl ⟨?_, u, .run e, hmade, ?_⟩
          · simp [Except.toOption, hrun]
          · simp [hrun]
        | ok outcome =>
          refine .inr ⟨u, outcome, ?_, hmade, ?_⟩
          · simp [Except.toOption, hrun]
          · simp [hrun]

theorem mem_numbered_of_outcome? {outcome : Outcome} (h : outcome? t git threads o = some outcome)
    {n : Nat} {text : String} :
    (n, text) ∈ numbered outcome.resolutions 0 ↔ outcome.report.settingsAt n = some text := by
  have hrun : ∃ u lookup input, run u threads lookup input = .ok outcome := by
    unfold outcome? at h
    split at h
    · obtain ⟨settings, -, h⟩ := Option.bind_eq_some_iff.1 h
      obtain ⟨u, -, h⟩ := Option.bind_eq_some_iff.1 h
      exact ⟨u, _, _, ok_of_toOption h⟩
    · cases h
  obtain ⟨u, lookup, input, hrun⟩ := hrun
  obtain ⟨s, pool, -, -, houtcome⟩ := outcome_of_run hrun
  have hpackages : outcome.report.packages =
      outcome.resolutions.map (PackageReport.ofResolution s.outputDir.path) := by
    rw [houtcome]
    rfl
  rw [mem_numbered, Report.settingsAt, hpackages, List.getElem?_map]
  cases outcome.resolutions[n]? with
  | none => rfl
  | some r => rfl

theorem readText_of_reach {path text : String} {p : Place}
    (h : t.reach true path = .ok (.found p (.file (Text.utf8 text.toList)))) :
    t.readText path = .ok text := by
  apply readText_of_entry
  unfold entry
  rw [h]
  rfl

/-- Writing what a run has found out writes its settings, and then its report unless something
failed. -/
theorem wroteSettings_of_writeOutcome (hapart : Apart t o directory) (hgrown : Grows t u)
    (outcome : Outcome) :
    ∃ failure,
      WroteSettings u (writeOutcome u o outcome).tree o.outputDir directory
        (numbered outcome.resolutions 0) failure ∧
      ((writeOutcome u o outcome).exitCode = 1 ∨ failure = none ∧
        (writeOutcome u o outcome).exitCode = outcome.report.exitCode ∧
        (writeOutcome u o outcome).tree.readText (reportPath o) = .ok outcome.report.render) := by
  unfold writeOutcome
  rw [configFiles_eq]
  split
  · next v e hwrite =>
    exact ⟨some e, wroteSettings_of_writeAll hapart.leads hapart.noLink hgrown hwrite, .inl rfl⟩
  · next v hwrite =>
    have hsettings := wroteSettings_of_writeAll hapart.leads hapart.noLink hgrown hwrite
    refine ⟨none, ?_⟩
    split
    · exact ⟨hsettings, .inl rfl⟩
    · next w hreport =>
      obtain ⟨p, hwrote⟩ := wrote_of_writeFile hreport
      have hp : ∀ n, p ≠ settingsPlace directory n := by
        rintro n rfl
        exact hapart.report n ((hgrown.trans hsettings.grows).pointsTo hwrote.pointsTo)
      exact ⟨hsettings.elsewhere hwrote hp, .inr ⟨rfl, rfl, readText_of_reach hwrote.reached⟩⟩

/-- Whether the file of a number holds what an outcome has for it. -/
def HoldsSettings (t : Tree) (directory : Place) (n : Nat) (outcome : Outcome) : Prop :=
  ∃ text, outcome.report.settingsAt n = some text ∧
    t.content? (settingsPlace directory n) = some (Text.utf8 text.toList)

/-- A run leaves the file of a number as it was, unless its package there has settings. -/
theorem keeps_of_resolve (git : Git) (threads : Threads) (hapart : Apart t o directory) (n : Nat) :
    (resolve t git threads o).tree.content? (settingsPlace directory n) = t.content?
    (settingsPlace directory n) ∨
      ∃ outcome, outcome? t git threads o = some outcome ∧
        HoldsSettings (resolve t git threads o).tree directory n outcome := by
  rcases resolve_cases t git threads o with ⟨-, u, e, hmade, hresolve⟩
    | ⟨u, outcome, houtcome, hmade, hresolve⟩
  · rw [hresolve]
    exact .inl (hmade.content?_eq _)
  · rw [hresolve]
    obtain ⟨failure, hwrote, -⟩ := wroteSettings_of_writeOutcome hapart hmade.grows outcome
    rcases hwrote.keeps n with hkept | ⟨text, hfile, hcontent⟩
    · exact .inl (hkept.trans (hmade.content?_eq _))
    · exact .inr ⟨outcome, houtcome, text, (mem_numbered_of_outcome? houtcome).1 hfile, hcontent⟩

/-- A run that reports writes its report, and the settings that the report shows. -/
theorem holds_of_resolve (hapart : Apart t o directory)
    (hcode : (resolve t git threads o).exitCode = 0 ∨ (resolve t git threads o).exitCode = 2) :
    ∃ outcome, outcome? t git threads o = some outcome ∧
      (resolve t git threads o).exitCode = outcome.report.exitCode ∧
      (resolve t git threads o).tree.readText (reportPath o) = .ok outcome.report.render ∧
      ∀ n text, outcome.report.settingsAt n = some text →
        Holds (resolve t git threads o).tree o.outputDir directory n text := by
  have hreports : (resolve t git threads o).exitCode ≠ 1 := by omega
  rcases resolve_cases t git threads o with ⟨-, u, e, hmade, hresolve⟩
    | ⟨u, outcome, houtcome, hmade, hresolve⟩
  · rw [hresolve] at hreports
    exact absurd rfl hreports
  · rw [hresolve] at hreports ⊢
    obtain ⟨failure, hwrote, hone | ⟨hnone, hcode, hreport⟩⟩ :=
      wroteSettings_of_writeOutcome hapart hmade.grows outcome
    · exact absurd hone hreports
    · refine ⟨outcome, houtcome, hcode, hreport, fun n text htext => ?_⟩
      have hfile : (n, text) ∈ numbered outcome.resolutions 0 :=
        (mem_numbered_of_outcome? houtcome).2 htext
      obtain ⟨text', hfile', hholds⟩ := hwrote.holds hnone n text hfile
      have htext' : outcome.report.settingsAt n = some text' :=
        (mem_numbered_of_outcome? houtcome).1 hfile'
      rw [htext, Option.some.injEq] at htext'
      rw [htext']
      exact hholds

end Command
end FetchPlan
