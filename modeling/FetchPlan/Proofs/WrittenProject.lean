import FetchPlan.Proofs.NamedEntries
import FetchPlan.Proofs.SettingsFiles

/-!
A project that was written to. What a run finds out about it does not depend on the reports and
the settings in its output directory (`Written.outcome?_project`), where the run goes on to write
(`Written.resolve_project`, `Written.writeFile_settings`, `Written.writeFile_report`).
-/
namespace FetchPlan.Command

open Files Files.Tree

variable {t u v : Tree} {o : ResolveOptions} {written : List (Place × Entry)}

def namedManifest : String := "[package]\nname = \"a\"\n"

def emptyLock : String := "version = 3\n"

def keptSettings : String := "[registries.x]\nindex = \"i\"\n"

/-- A project with settings of cargo, beside an output directory to which these entries were
written. -/
def project (written : List (Place × Entry)) : Tree :=
  ⟨[(["src"], .directory), (["src", "Cargo.toml"], .file (Text.utf8 namedManifest.toList)),
    (["src", "Cargo.lock"], .file (Text.utf8 emptyLock.toList)), (["src", ".cargo"], .directory),
    (["src", ".cargo", "config.toml"], .file (Text.utf8 keptSettings.toList)),
    (["out"], .directory),
    (["out", "config"], .directory), (["out", "config", "cargo"], .directory)] ++ written, []⟩

/-- Entries that reports and settings are written to. -/
structure Written (written : List (Place × Entry)) : Prop where
  places : ∀ node ∈ written,
    node.1 = ["out", reportFile] ∨ ∃ n, node.1 = settingsPlace ["out", "config", "cargo"] n

theorem Written.sound (hw : Written written) : (project written).Sound := by
  apply sound_of_nodes
  · intro node hnode
    rcases List.mem_append.1 hnode with hnode | hnode
    · simp only [List.mem_cons, List.not_mem_nil, or_false] at hnode
      rcases hnode with rfl | rfl | rfl | rfl | rfl | rfl | rfl | rfl <;> decide
    · rcases hw.places node hnode with h | ⟨n, h⟩
      · rw [h]
        decide
      · rw [h]
        exact named_concat (by decide) (isName_settings n)
  · intro node hnode
    rcases List.mem_append.1 hnode with hnode | hnode
    · simp only [List.mem_cons, List.not_mem_nil, or_false] at hnode
      rcases hnode with rfl | rfl | rfl | rfl | rfl | rfl | rfl | rfl <;> rfl
    · rcases hw.places node hnode with h | ⟨n, h⟩
      · rw [h]
        rfl
      · rw [h, settingsPlace, List.dropLast_concat]
        rfl
  · rfl

theorem Written.lookup_none (hw : Written written) {p : Place} (hp : (project []).lookup p = none)
    (hreport : p ≠ ["out", reportFile]) (hsettings : p.dropLast ≠ ["out", "config", "cargo"]) :
    (project written).lookup p = none := by
  have hne : p ≠ [] := by
    rintro rfl
    cases hp
  rw [lookup, if_neg hne, project, List.append_nil] at hp
  rw [lookup, if_neg hne, project, List.lookup_append, hp, Option.none_or, List.lookup_eq_none_iff]
  intro node hnode
  rw [bne_iff_ne]
  rintro rfl
  rcases hw.places node hnode with h | ⟨n, h⟩
  · exact hreport h
  · rw [h, settingsPlace, List.dropLast_concat] at hsettings
    exact hsettings rfl

def noGit : Git := ⟨"git", fun _ => .error .notFound⟩

def projectSurroundings (written : List (Place × Entry)) : Surroundings :=
  ⟨project written, ⟨["src"], ["src"]⟩, ⟨["out"], ["out"]⟩, .permissive,
    noGit.checkout (project written)⟩

def projectResolution : Resolution where
  ecosystem := .cargo
  path := "."
  identity := ⟨"a", none⟩
  checkout := none
  artifacts := []
  components := [Component.ofLocal .cargo "a" none none]
  sanitizedConfig := some keptSettings

namespace Written

theorem plain_source (hw : Written written) : (project written).Plain ["src"] :=
  hw.sound.plain_entry (d := []) rfl ⟨by decide, by simp⟩ rfl (by simp)

theorem new_source (hw : Written written) :
    RootedPath.new (project written) "/src" = .ok ⟨["src"], ["src"]⟩ :=
  RootedPath.new_text (p := ["src"]) hw.sound hw.plain_source

theorem new_output (hw : Written written) :
    RootedPath.new (project written) "/out" = .ok ⟨["out"], ["out"]⟩ :=
  RootedPath.new_text (p := ["out"]) hw.sound
    (hw.sound.plain_entry (d := []) rfl ⟨by decide, by simp⟩ rfl (by simp))

theorem reRoot_output (hw : Written written) :
    (⟨["out"], ["out"]⟩ : RootedPath).reRoot (project written) Cargo.depsDir =
      .ok ⟨["out", "deps", "cargo"], ["out", "deps", "cargo"]⟩ := by
  have hmissing : (project written).lookup ["out", "deps"] = none :=
    hw.lookup_none rfl (by decide) (by decide)
  have hplain : (project written).Plain ["out", "deps", "cargo"] :=
    hw.sound.plain_missing (d := ["out"]) rfl ⟨by decide, by simp⟩ hmissing
  have hjoin : (⟨["out"], ["out"]⟩ : RootedPath).join (project written) Cargo.depsDir =
      .ok ⟨["out"], ["out", "deps", "cargo"]⟩ := RootedPath.join_text hw.sound hplain rfl (by simp)
  unfold RootedPath.reRoot
  rw [hjoin]

theorem read_source (hw : Written written) (d : Place) (name rel text : String)
    (hd : (project written).lookup ("src" :: d) = some .directory)
    (hl : (project written).lookup ("src" :: d ++ [name]) = some (.file (Text.utf8 text.toList)))
    (hp : Nameable ("src" :: d ++ [name])) (hsay : Sayable ("src" :: d ++ [name]))
    (htext : joinText "/src" rel = Place.text ("src" :: d ++ [name])) :
    (⟨["src"], ["src"]⟩ : RootedPath).join (project written) rel =
      .ok ⟨["src"], "src" :: d ++ [name]⟩ ∧
      (project written).readText (Place.text ("src" :: d ++ [name])) = .ok text := by
  constructor
  · exact RootedPath.join_text hw.sound (hw.sound.plain_entry hd hp hl (by simp)) htext (by simp)
  · have hnoLink : ∀ target,
        (project written).lookup ("src" :: d ++ [name]) ≠ some (.link target) := by
      intro target
      rw [hl]
      simp
    apply readText_of_entry
    rw [hw.sound.entry_text hsay hd hnoLink, hl]
    rfl

theorem repositoryRoot_project (hw : Written written) :
    repositoryRoot (project written) "/src" = .ok none := by
  have hinside : (project written).lookup ["src", ".git"] = none :=
    hw.lookup_none rfl (by decide) (by decide)
  have habove : (project written).lookup [".git"] = none :=
    hw.lookup_none rfl (by decide) (by decide)
  have hsource : (project written).entry false "/src/.git" = .error .notFound := by
    have hnoLink : ∀ target,
        (project written).lookup (["src"] ++ [".git"]) ≠ some (.link target) := by simp [hinside]
    have hentry := hw.sound.entry_text ⟨by decide, by simp; decide, by decide⟩ rfl hnoLink false
    exact hentry.trans (by simp [hinside])
  have hroot : (project written).entry false "/.git" = .error .notFound := by
    have hnoLink : ∀ target, (project written).lookup ([] ++ [".git"]) ≠ some (.link target) := by
      simp [habove]
    have hentry := hw.sound.entry_text ⟨by decide, by simp; decide, by decide⟩ rfl hnoLink false
    exact hentry.trans (by simp [habove])
  have hplaces : ancestors "/src" = ["/src", "/"] := by decide
  unfold repositoryRoot
  rw [hplaces]
  simp only [firstRepository, show joinText "/src" ".git" = "/src/.git" by decide, hsource, if_true,
    show joinText "/" ".git" = "/.git" by decide, hroot]

theorem checkout_project (hw : Written written) :
    (projectSurroundings written).provenanceOf ⟨["src"], ["src"]⟩ = .ok none := by
  have hlookup : (projectSurroundings written).lookup "/src" = .error (.notAGitRepo "/src") := by
    show noGit.checkout (project written) "/src" = _
    unfold Git.checkout
    rw [hw.repositoryRoot_project]
    rfl
  unfold Surroundings.provenanceOf
  rw [show RootedPath.text ⟨["src"], ["src"]⟩ = "/src" by decide, hlookup]
  rfl

theorem sanitizedConfig_project (hw : Written written) :
    Cargo.sanitizedConfig (projectSurroundings written) ⟨["src"], ["src"]⟩ Cargo.configFiles =
      .ok (some keptSettings) := by
  obtain ⟨hconfig, hconfigText⟩ :=
    hw.read_source [".cargo"] "config.toml" ".cargo/config.toml" keptSettings rfl rfl
    ⟨by decide, by simp⟩ ⟨by decide, by simp; decide, by decide⟩ rfl
  have hkept : Sanitize.sanitize Sanitize.cargoPolicy keptSettings = .ok keptSettings := by
    decide +kernel
  have hsome : ¬ keptSettings = "" := by decide
  unfold Cargo.configFiles Cargo.sanitizedConfig Surroundings.readOptional RootedPath.text
  simp only [show (projectSurroundings written).tree = project written from rfl, hconfig,
    hconfigText, bind, Except.bind, hkept, hsome, if_false]
  rfl

/-- What the project is resolved to does not depend on what was written before. -/
theorem resolvePackage_project (hw : Written written) :
    resolvePackage (projectSurroundings written) (PackageRequest.simple .cargo ".") =
      .ok projectResolution := by
  have hpackage : (⟨["src"], ["src"]⟩ : RootedPath).join (project written) "." =
      .ok ⟨["src"], ["src"]⟩ :=
    RootedPath.join_point hw.sound hw.plain_source rfl (by simp)
  obtain ⟨hmanifest, hmanifestText⟩ :=
    hw.read_source [] "Cargo.toml" "Cargo.toml" namedManifest rfl rfl
    ⟨by decide, by simp⟩ ⟨by decide, by simp; decide, by decide⟩ rfl
  obtain ⟨hlock, hlockText⟩ := hw.read_source [] "Cargo.lock" "Cargo.lock" emptyLock rfl rfl
    ⟨by decide, by simp⟩ ⟨by decide, by simp; decide, by decide⟩ rfl
  have hidentity : Manifest.cargoIdentity namedManifest "src" = .ok ⟨"a", none⟩ := by decide +kernel
  have hcrates : Lockfile.parse emptyLock = .ok [] := by decide +kernel
  have hname : directoryName ⟨["src"], ["src"]⟩ = "src" := rfl
  have hcargo : resolvePackage (projectSurroundings written) (PackageRequest.simple .cargo ".") =
      Cargo.resolve (projectSurroundings written) ⟨["src"], ["src"]⟩ :=
    resolvePackage_cargo hpackage rfl
  rw [hcargo]
  simp only [Cargo.resolve, Surroundings.readText, RootedPath.text, Manifest.cargoFile,
    Lockfile.fileName, show (projectSurroundings written).tree = project written from rfl,
    show (projectSurroundings written).outputDir = ⟨["out"], ["out"]⟩ from rfl, hmanifest,
    hmanifestText, hlock, hlockText, hidentity, hcrates, hname, hw.checkout_project,
    hw.reRoot_output, hw.sanitizedConfig_project, Except.mapError, bind, Except.bind, List.mapM_nil]
  rfl

end Written

/-- The options of a run that asks for the project a number of times. -/
def projectOptions (count : Nat) (reportOut : Option String) : ResolveOptions :=
  ⟨"/src", "/out", List.replicate count (PackageRequest.simple .cargo "."), some "permissive", none,
    none, reportOut⟩

def projectOutcome (count : Nat) : Outcome :=
  ⟨⟨.permissive, 0, List.replicate count (PackageRequest.simple .cargo ".")⟩,
    List.replicate count projectResolution,
    Report.ofResolutions .permissive ["out"] (List.replicate count projectResolution) []⟩

def projectSettings : Place := ["out", "config", "cargo"]

namespace Written

variable {count : Nat} {reportOut : Option String}

theorem run_project (hw : Written written) :
    run (project written) .single (noGit.checkout (project written))
    ⟨"/src", "/out", "",
      ⟨(projectOptions count reportOut).mode, (projectOptions count reportOut).maxParallel,
      (projectOptions count reportOut).packages⟩⟩ = .ok (projectOutcome count) := by
  have hsettings : settingsOf "" = .ok Settings.empty := rfl
  have hplan :
      Settings.empty.plan
        ⟨(projectOptions count reportOut).mode, (projectOptions count reportOut).maxParallel,
      (projectOptions count reportOut).packages⟩ =
      .ok ⟨.permissive, 0, List.replicate count (PackageRequest.simple .cargo ".")⟩ := by
    cases count <;> rfl
  have hall : resolveAll .single (projectSurroundings written)
      (List.replicate count (PackageRequest.simple .cargo ".")) =
      List.replicate count (PackageRequest.simple .cargo ".", .ok projectResolution) := by
    rw [ThreadPool.single_inOrder.resolveAll_eq, List.map_replicate, hw.resolvePackage_project]
  have hresolved :
      (⟨.permissive, 0, List.replicate count (PackageRequest.simple .cargo ".")⟩ : Plan).outcome
      .single (projectSurroundings written) = projectOutcome count := by
    unfold Plan.outcome
    rw [hall]
    simp [resolved, failed, Except.toOption, projectOutcome, projectSurroundings]
  unfold run
  simp only [hsettings, hplan, hw.new_source, hw.new_output, Except.mapError, bind, Except.bind]
  exact congrArg Except.ok hresolved

theorem isDirectory_source (hw : Written written) :
    (project written).isDirectory "/src" = true := by
  have hsource : (project written).lookup ["src"] = some .directory := rfl
  have hsay : Sayable ([] ++ ["src"]) := ⟨by decide, by simp; decide, by decide⟩
  have hentry : (project written).entry true "/src" = .ok .directory :=
    (hw.sound.entry_text hsay rfl (by simp [hsource]) true).trans (by simp [hsource])
  unfold isDirectory
  rw [hentry]

theorem settingsText_project (hw : Written written) :
    settingsText (project written) (projectOptions count reportOut) = .ok "" := by
  have hmissing : (project written).lookup ["src", "prefetch.toml"] = none :=
    hw.lookup_none rfl (by decide) (by decide)
  have hnoLink : ∀ target,
      (project written).lookup (["src"] ++ ["prefetch.toml"]) ≠ some (.link target) := by
    simp [hmissing]
  have hentry := hw.sound.entry_text ⟨by decide, by simp; decide, by decide⟩ rfl hnoLink true
  have hfile : (project written).isFile "/src/prefetch.toml" = false := by
    unfold isFile
    rw [show (project written).entry true "/src/prefetch.toml" = .error .notFound from
      hentry.trans (by simp [hmissing])]
  have hpath : joinText "/src" settingsFile = "/src/prefetch.toml" := by decide
  unfold settingsText projectOptions
  simp only [hpath, hfile]
  rfl

theorem makeDirectories_output (hw : Written written) :
    makeDirectories (project written) "/out" = .ok (project written) := by
  have hsay : Sayable ([] ++ ["out"]) := ⟨by decide, by simp; decide, by decide⟩
  have hend : withoutEnd (Place.text ([] ++ ["out"])) = Place.text ([] ++ ["out"]) := by decide
  have hmade := hw.sound.makeDirectories_text hsay rfl rfl hend
  rw [show Place.text ([] ++ ["out"]) = "/out" by decide] at hmade
  unfold makeDirectories
  rw [hmade]
  rfl

theorem outcome?_project (hw : Written written) :
    outcome? (project written) noGit .single (projectOptions count reportOut) =
      some (projectOutcome count) := by
  unfold outcome?
  rw [show (projectOptions count reportOut).sourceDir = "/src" from rfl,
    show (projectOptions count reportOut).outputDir = "/out" from rfl, hw.isDirectory_source,
    if_pos rfl, hw.settingsText_project, hw.makeDirectories_output]
  exact congrArg Except.toOption hw.run_project

theorem resolve_project (hw : Written written) :
    resolve (project written) noGit .single (projectOptions count reportOut) =
      writeOutcome (project written) (projectOptions count reportOut) (projectOutcome count) := by
  unfold resolve
  rw [show (projectOptions count reportOut).sourceDir = "/src" from rfl,
    show (projectOptions count reportOut).outputDir = "/out" from rfl, hw.isDirectory_source,
    hw.settingsText_project, hw.makeDirectories_output]
  simp only [Bool.not_true, Bool.false_eq_true, if_false, hw.run_project]

theorem makeDirectories_settings (hw : Written written) :
    (project written).makeDirectories "/out/config/cargo" = .ok (project written) := by
  have hsay : Sayable (["out", "config"] ++ ["cargo"]) := ⟨by decide, by simp; decide, by decide⟩
  have htext : Place.text (["out", "config"] ++ ["cargo"]) = "/out/config/cargo" := by decide
  have hmade := hw.sound.makeDirectories_text hsay rfl rfl (by decide)
  rw [htext] at hmade
  exact hmade

theorem writeFile_settings (hw : Written written) (n : Nat)
    (hsay : Sayable (settingsPlace projectSettings n))
    (hpath : configPath "/out" n = Place.text (settingsPlace projectSettings n))
    (hparent : parent? (configPath "/out" n) = some "/out/config/cargo")
    (hl : (project written).lookup (settingsPlace projectSettings n) = none ∨ ∃ old,
      (project written).lookup (settingsPlace projectSettings n) = some (.file old))
    (text : String) :
    writeFile (project written) (configPath "/out" n) text =
      .ok ((project written).put (settingsPlace projectSettings n)
        (.file (Text.utf8 text.toList))) := by
  have hwrite := hw.sound.writeFile_text hsay rfl hl (Text.utf8 text.toList)
  rw [← settingsPlace, ← hpath] at hwrite
  unfold writeFile
  rw [hparent]
  simp only [makeDirectories, hw.makeDirectories_settings, hwrite, Except.mapError,
    bind, Except.bind]

theorem writeFile_report (hw : Written written)
    (hl : (project written).lookup ["out", reportFile] = none ∨
      ∃ old, (project written).lookup ["out", reportFile] = some (.file old)) (text : String) :
    writeFile (project written) "/out/prefetch.report.json" text =
      .ok ((project written).put ["out", reportFile] (.file (Text.utf8 text.toList))) := by
  have hsay : Sayable (["out"] ++ ["prefetch.report.json"]) :=
    ⟨by decide, by simp; decide, by decide⟩
  have htext : Place.text (["out"] ++ ["prefetch.report.json"]) = "/out/prefetch.report.json" := by
    decide
  have hparent : parent? "/out/prefetch.report.json" = some "/out" := by decide
  have hwrite := hw.sound.writeFile_text hsay rfl hl (Text.utf8 text.toList)
  rw [htext] at hwrite
  unfold writeFile
  rw [hparent]
  simp only [hw.makeDirectories_output, hwrite, Except.mapError, bind, Except.bind]
  rfl

theorem apart (hw : Written written) (hlinks : ∀ node ∈ written, ∀ target, node.2 ≠ .link target) :
    Apart (project written) (projectOptions count none) projectSettings := by
  have hnoLink : ∀ p target, (project written).lookup p ≠ some (.link target) := by
    intro p target hl
    have hp : p ≠ [] := by
      rintro rfl
      cases hl
    rcases List.mem_append.1 (mem_of_lookup hl hp) with hnode | hnode
    · simp at hnode
    · exact hlinks _ hnode target rfl
  have hsettings : Sayable (["out", "config"] ++ ["cargo"]) :=
    ⟨by decide, by simp; decide, by decide⟩
  have hreport : Sayable (["out"] ++ ["prefetch.report.json"]) :=
    ⟨by decide, by simp; decide, by decide⟩
  have hdirectoryPath :
      Place.text (["out", "config"] ++ ["cargo"]) = joinText "/out" configDir := by decide
  have hreportPath : reportPath (projectOptions count none) =
      Place.text (["out"] ++ ["prefetch.report.json"]) := by
    simp only [reportPath, projectOptions, Option.getD_none]
    decide
  refine ⟨?_, fun n target => hnoLink _ target, fun n hn => ?_⟩
  · have hleads := hw.sound.pointsTo_text hsettings rfl (hnoLink _)
    rw [hdirectoryPath] at hleads
    exact hleads
  · rw [hreportPath] at hn
    have hplace := Leads.unique hn (hw.sound.pointsTo_text hreport rfl (hnoLink _))
    have hlength := congrArg List.length hplace
    simp [settingsPlace, projectSettings] at hlength

end Written

theorem writeOutcome_of_writes {outcome : Outcome}
    (hfiles : writeAll t (configFiles o.outputDir 0 outcome.resolutions) = (u, none))
    (hreport : writeFile u (reportPath o) outcome.report.render = .ok v) :
    writeOutcome t o outcome =
      ⟨outcome.report.exitCode, "", outcome.report.failures.map complaint, v⟩ := by
  unfold reportPath at hreport
  unfold writeOutcome
  rw [hfiles]
  simp only [hreport]

end FetchPlan.Command
