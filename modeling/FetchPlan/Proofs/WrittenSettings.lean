import FetchPlan.Proofs.WrittenProject

/-!
Runs into one output directory. After any number of them the file of safe settings of a number is
as it was before them, or holds what one of them found out for that number (`keeps_of_ran`). A run
that reports leaves beside its report the settings that the report shows, and leaves the other
files as they were (`settings_beside_report`); so what is there need not be what the report shows
(`settings_not_beside`).

The tree before the first run is any tree, and so is the number of runs between it and the last
one; other programs may change anything between runs but the files of settings (`Ran`). Assumed of
the last run is that its files are kept apart (`Apart`) and that it reports, with exit code zero
or two.
-/
namespace FetchPlan.Command

open Files Files.Tree

variable {t t₀ : Tree} {directory : Place}

/-- Trees that runs into one output directory leave, from a tree on, with what the runs found out.
Between runs anything may change but the files of safe settings. -/
inductive Ran (directory : Place) (t₀ : Tree) : List Outcome → Tree → Prop where
  | start : Ran directory t₀ [] t₀
  | change {found : List Outcome} {t u : Tree} (earlier : Ran directory t₀ found t)
    (same : ∀ n, u.content? (settingsPlace directory n) = t.content? (settingsPlace directory n)) :
    Ran directory t₀ found u
  | run {found : List Outcome} {t : Tree} (git : Git) (threads : Threads) (o : ResolveOptions)
    (earlier : Ran directory t₀ found t)
    (apart : Apart t o directory) :
      Ran directory t₀ (found ++ (outcome? t git threads o).toList) (resolve t git threads o).tree

theorem keeps_of_ran {found : List Outcome} (h : Ran directory t₀ found t) (n : Nat) :
    t.content? (settingsPlace directory n) = t₀.content? (settingsPlace directory n) ∨
      ∃ outcome ∈ found, HoldsSettings t directory n outcome := by
  induction h with
  | start => exact .inl rfl
  | change _ same ih =>
    unfold HoldsSettings
    rw [same]
    exact ih
  | @run found t git threads o _ apart ih =>
    rcases keeps_of_resolve git threads apart n with hkept | ⟨outcome, houtcome, hholds⟩
    · unfold HoldsSettings
      rw [hkept]
      rcases ih with hstart | ⟨outcome, hfound, hholds⟩
      · exact .inl hstart
      · exact .inr ⟨outcome, List.mem_append_left _ hfound, hholds⟩
    · exact .inr ⟨outcome, List.mem_append_right _ (by simp [houtcome]), hholds⟩

/-- After runs into one output directory, a run that reports leaves beside its report exactly what
the report shows: the file of each number for which the report has settings holds these, and every
other one is left as it was, which is as it was before all runs or with the settings that an
earlier run found out for that number. -/
theorem settings_beside_report {found : List Outcome} (git : Git) (threads : Threads)
    (o : ResolveOptions) (hran : Ran directory t₀ found t) (hapart : Apart t o directory)
    (hcode : (resolve t git threads o).exitCode = 0 ∨ (resolve t git threads o).exitCode = 2) :
    ∃ outcome, outcome? t git threads o = some outcome ∧
      (resolve t git threads o).exitCode = outcome.report.exitCode ∧
      (resolve t git threads o).tree.readText (reportPath o) = .ok outcome.report.render ∧
      (∀ n text, outcome.report.settingsAt n = some text →
        (resolve t git threads o).tree.readText (configPath o.outputDir n) = .ok text ∧
        (resolve t git threads o).tree.content? (settingsPlace directory n) =
          some (Text.utf8 text.toList)) ∧
      ∀ n, outcome.report.settingsAt n = none →
        (resolve t git threads o).tree.content? (settingsPlace directory n) = t.content?
        (settingsPlace directory n) ∧
        (t.content? (settingsPlace directory n) = t₀.content? (settingsPlace directory n) ∨
          ∃ earlier ∈ found, HoldsSettings t directory n earlier) := by
  obtain ⟨outcome, houtcome, hexit, hreport, hholds⟩ := holds_of_resolve hapart hcode
  refine ⟨outcome, houtcome, hexit, hreport, fun n text htext => ?_,
    fun n hnone => ⟨?_, keeps_of_ran hran n⟩⟩
  · exact ⟨readText_of_reach (hholds n text htext), (hholds n text htext).content?⟩
  · rcases keeps_of_resolve git threads hapart n with hkept | ⟨outcome', houtcome', text, htext, -⟩
    · exact hkept
    · obtain rfl := Option.some.inj (houtcome.symm.trans houtcome')
      rw [hnone] at htext
      cases htext

/-! ## A project that is resolved again -/

section Again

/-- The file of safe settings of a number, with the settings of the project. -/
def settingsEntry (n : Nat) : Place × Entry :=
  (settingsPlace projectSettings n, .file (Text.utf8 keptSettings.toList))

def reportEntry (content : List UInt8) : Place × Entry := (["out", reportFile], .file content)

def linkEntry : Place × Entry := (settingsPlace projectSettings 0, .link "1-config.toml")

def reportBytes (count : Nat) : List UInt8 := Text.utf8 (projectOutcome count).report.render.toList

theorem written_nil : Written [] := ⟨by simp⟩

theorem written_first : Written [settingsEntry 0] :=
  ⟨by simp [settingsEntry, settingsPlace_inj, projectSettings]⟩

theorem written_twice (content : List UInt8) :
    Written [settingsEntry 0, settingsEntry 1, reportEntry content] :=
  ⟨by simp [settingsEntry, reportEntry, settingsPlace_inj, projectSettings]⟩

theorem written_linked : Written [linkEntry] :=
  ⟨by simp [linkEntry, settingsPlace_inj, projectSettings]⟩

theorem sayable_first : Sayable (settingsPlace projectSettings 0) :=
  ⟨by decide, by simp; decide, by decide⟩

theorem sayable_second : Sayable (settingsPlace projectSettings 1) :=
  ⟨by decide, by simp; decide, by decide⟩

theorem writeFile_first :
    writeFile (project []) (configPath "/out" 0) keptSettings = .ok (project [settingsEntry 0]) :=
  written_nil.writeFile_settings 0 sayable_first (by decide) (by decide) (.inl rfl) keptSettings

theorem resolve_twice : resolve (project []) noGit .single (projectOptions 2 none) =
    ⟨0, "", [], project [settingsEntry 0, settingsEntry 1, reportEntry (reportBytes 2)]⟩ := by
  have hsecond : writeFile (project [settingsEntry 0]) (configPath "/out" 1) keptSettings =
      .ok (project [settingsEntry 0, settingsEntry 1]) :=
    written_first.writeFile_settings 1 sayable_second (by decide) (by decide)
      (.inl rfl) keptSettings
  have hboth : Written [settingsEntry 0, settingsEntry 1] :=
    ⟨by simp [settingsEntry, settingsPlace_inj, projectSettings]⟩
  have hreport := hboth.writeFile_report (.inl rfl) (projectOutcome 2).report.render
  rw [written_nil.resolve_project]
  refine writeOutcome_of_writes (u := project [settingsEntry 0, settingsEntry 1]) ?_ hreport
  show writeAll (project [])
    [(configPath "/out" 0, keptSettings), (configPath "/out" 1, keptSettings)] = _
  simp only [writeAll, writeFile_first, hsecond]

theorem resolve_again (content : List UInt8) :
    resolve (project [settingsEntry 0, settingsEntry 1, reportEntry content]) noGit .single
      (projectOptions 1 none) =
      ⟨0, "", [], project [settingsEntry 0, settingsEntry 1, reportEntry (reportBytes 1)]⟩ := by
  have hw := written_twice content
  have hfirst :
      writeFile (project [settingsEntry 0, settingsEntry 1, reportEntry content])
        (configPath "/out" 0)
      keptSettings = .ok (project [settingsEntry 0, settingsEntry 1, reportEntry content]) :=
    hw.writeFile_settings 0 sayable_first (by decide) (by decide) (.inr ⟨_, rfl⟩) keptSettings
  have hreport := hw.writeFile_report (.inr ⟨_, rfl⟩) (projectOutcome 1).report.render
  rw [hw.resolve_project]
  refine writeOutcome_of_writes
    (u := project [settingsEntry 0, settingsEntry 1, reportEntry content]) ?_ hreport
  show writeAll _ [(configPath "/out" 0, keptSettings)] = _
  simp only [writeAll, hfirst]

theorem resolve_onto :
    resolve (project []) noGit .single (projectOptions 1 (some (configPath "/out" 1))) =
    ⟨0, "", [], project
      [settingsEntry 0, (settingsPlace projectSettings 1, .file (reportBytes 1))]⟩ := by
  have hreport :=
    written_first.writeFile_settings 1 sayable_second (by decide) (by decide) (.inl rfl)
      (projectOutcome 1).report.render
  rw [written_nil.resolve_project]
  refine writeOutcome_of_writes (u := project [settingsEntry 0]) ?_ hreport
  show writeAll _ [(configPath "/out" 0, keptSettings)] = _
  simp only [writeAll, writeFile_first]

/-- A run for the project alone writes its settings where a link leads that it finds in their
place. -/
theorem resolve_linked : resolve (project [linkEntry]) noGit .single (projectOptions 1 none) =
    ⟨0, "", [], project [linkEntry, settingsEntry 1, reportEntry (reportBytes 1)]⟩ := by
  have hthrough : writeFile (project [linkEntry]) (configPath "/out" 0) keptSettings =
      .ok (project [linkEntry, settingsEntry 1]) := by
    have hwrite := written_linked.sound.writeFile_link sayable_first sayable_second rfl rfl rfl
      (Text.utf8 keptSettings.toList)
    have hpath : Place.text (settingsPlace projectSettings 0) = configPath "/out" 0 := by decide
    have hparent : parent? (configPath "/out" 0) = some "/out/config/cargo" := by decide
    rw [← settingsPlace, hpath] at hwrite
    unfold writeFile
    rw [hparent]
    simp only [makeDirectories, written_linked.makeDirectories_settings, hwrite, Except.mapError,
      bind, Except.bind]
    rfl
  have hboth : Written [linkEntry, settingsEntry 1] :=
    ⟨by simp [linkEntry, settingsEntry, settingsPlace_inj, projectSettings]⟩
  have hreport := hboth.writeFile_report (.inl rfl) (projectOutcome 1).report.render
  rw [written_linked.resolve_project]
  refine writeOutcome_of_writes (u := project [linkEntry, settingsEntry 1]) ?_ hreport
  show writeAll _ [(configPath "/out" 0, keptSettings)] = _
  simp only [writeAll, hthrough]

def resolvedTwice : Tree := (resolve (project []) noGit .single (projectOptions 2 none)).tree

theorem resolvedTwice_eq :
    resolvedTwice = project [settingsEntry 0, settingsEntry 1, reportEntry (reportBytes 2)] := by
  rw [resolvedTwice, resolve_twice]

/-- The run for the project alone that follows leaves the settings of the second package as they
were. -/
theorem settings_beside_report_again :
    Ran projectSettings (project []) [projectOutcome 2] resolvedTwice ∧
    Apart resolvedTwice (projectOptions 1 none) projectSettings ∧
    (resolve resolvedTwice noGit .single (projectOptions 1 none)).exitCode = 0 ∧
    (projectOutcome 1).report.settingsAt 0 = some keptSettings ∧
    (resolve resolvedTwice noGit .single (projectOptions 1 none)).tree.readText
    (configPath "/out" 0) = .ok keptSettings ∧
    (projectOutcome 1).report.settingsAt 1 = none ∧
    (resolve resolvedTwice noGit .single (projectOptions 1 none)).tree.content?
    (settingsPlace projectSettings 1) =
      resolvedTwice.content? (settingsPlace projectSettings 1) := by
  have hw := written_twice (reportBytes 2)
  have hran : Ran projectSettings (project [])
      ([] ++ (outcome? (project []) noGit .single (projectOptions 2 none)).toList)
      resolvedTwice :=
    .run noGit .single (projectOptions 2 none) .start (written_nil.apart (by simp))
  rw [written_nil.outcome?_project] at hran
  have hapart : Apart resolvedTwice (projectOptions 1 none) projectSettings := by
    rw [resolvedTwice_eq]
    exact hw.apart (by simp [settingsEntry, reportEntry])
  have hcode : (resolve resolvedTwice noGit .single (projectOptions 1 none)).exitCode = 0 := by
    rw [resolvedTwice_eq, resolve_again]
  have hkept : (projectOutcome 1).report.settingsAt 0 = some keptSettings := rfl
  have hnone : (projectOutcome 1).report.settingsAt 1 = none := rfl
  obtain ⟨outcome, houtcome, -, -, hholds, hkeeps⟩ :=
    settings_beside_report noGit .single (projectOptions 1 none) hran hapart (.inl hcode)
  rw [resolvedTwice_eq, hw.outcome?_project, Option.some.injEq] at houtcome
  subst houtcome
  exact ⟨hran, hapart, hcode, hkept, (hholds 0 keptSettings hkept).1, hnone, (hkeeps 1 hnone).1⟩

/-- Whether after a run the files of safe settings are those of its report, each with its text. -/
def Beside (t : Tree) (git : Git) (threads : Threads) (o : ResolveOptions) (directory : Place) :
    Prop :=
  ∃ outcome, outcome? t git threads o = some outcome ∧ ∀ n,
    (resolve t git threads o).tree.content? (settingsPlace directory n) =
    (outcome.report.settingsAt n).map fun text => Text.utf8 text.toList

theorem not_beside {written : List (Place × Entry)} (hw : Written written)
    {reportOut : Option String}
    (hcontent : (resolve (project written) noGit .single (projectOptions 1 reportOut)).tree.content?
      (settingsPlace projectSettings 1) ≠ none) :
    ¬ Beside (project written) noGit .single (projectOptions 1 reportOut) projectSettings := by
  rintro ⟨outcome, houtcome, hfiles⟩
  rw [hw.outcome?_project, Option.some.injEq] at houtcome
  subst houtcome
  have hnone : (projectOutcome 1).report.settingsAt 1 = none := rfl
  have hfile := hfiles 1
  rw [hnone] at hfile
  exact hcontent hfile

/-- The files of safe settings need not be those of the report: an earlier run may have left some,
the report may be written to one of them, and where one is a link the settings are written
elsewhere. -/
theorem settings_not_beside :
    ((resolve (project []) noGit .single (projectOptions 2 none)).exitCode = 0 ∧
      (resolve resolvedTwice noGit .single (projectOptions 1 none)).exitCode = 0 ∧
      ¬ Beside resolvedTwice noGit .single (projectOptions 1 none) projectSettings) ∧
    ((resolve (project []) noGit .single (projectOptions 1 (some (configPath "/out" 1)))).exitCode =
      0 ∧
      ¬ Beside (project []) noGit .single (projectOptions 1 (some (configPath "/out" 1)))
        projectSettings) ∧
    (resolve (project [linkEntry]) noGit .single (projectOptions 1 none)).exitCode = 0 ∧
      ¬ Beside (project [linkEntry]) noGit .single (projectOptions 1 none) projectSettings := by
  refine ⟨⟨?_, ?_, ?_⟩, ⟨?_, ?_⟩, ?_, ?_⟩
  · rw [resolve_twice]
  · rw [resolvedTwice_eq, resolve_again]
  · rw [resolvedTwice_eq]
    apply not_beside (written_twice _)
    rw [resolve_again]
    exact Option.some_ne_none _
  · rw [resolve_onto]
  · apply not_beside written_nil
    rw [resolve_onto]
    exact Option.some_ne_none _
  · rw [resolve_linked]
  · apply not_beside written_linked
    rw [resolve_linked]
    exact Option.some_ne_none _

end Again

end FetchPlan.Command
