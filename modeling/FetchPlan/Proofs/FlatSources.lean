import FetchPlan.Proofs.EncodedText
import FetchPlan.Proofs.PlainPlaces
import FetchPlan.Run

/-!
Source directories that hold files and nothing else. With nothing beside them a place is reached
as it is written, unless it goes on below one of the files (`plain_flat`). So what the source and
the output directory are, what is joined to them and what is found there can be told from the
names (`join_source`, `entry_source`, `join_output`), and with it what a package with a manifest
and a lock file is resolved to (`resolve_crate`).
-/
namespace FetchPlan

open Files

namespace Files.Tree

/-- A source directory that holds these files, and nothing beside it. -/
def flat (files : List (String × List UInt8)) : Tree :=
  ⟨(["src"], .directory) :: files.map fun f => (["src", f.1], .file f.2), []⟩

structure Nameable (p : Place) : Prop where
  names : ∀ name ∈ p, IsName name ∧ name.utf8ByteSize ≤ nameLimit
  noNul : p.any (·.contains '\x00') = false

variable {files : List (String × List UInt8)}

theorem mem_flat {node : Place × Entry} (h : node ∈ (flat files).nodes) :
    node = (["src"], .directory) ∨ ∃ f ∈ files, node = (["src", f.1], .file f.2) := by
  rcases List.mem_cons.1 h with h | h
  · exact .inl h
  · obtain ⟨f, hf, rfl⟩ := List.mem_map.1 h
    exact .inr ⟨f, hf, rfl⟩

theorem flat_sound (h : ∀ name ∈ files.map Prod.fst, IsName name) : (flat files).Sound := by
  apply sound_of_nodes
  · intro node hnode
    rcases mem_flat hnode with rfl | ⟨f, hf, rfl⟩
    · decide
    · intro name hn
      rcases List.mem_cons.1 hn with rfl | hn
      · decide
      · obtain rfl := List.mem_singleton.1 hn
        exact h _ (List.mem_map.2 ⟨f, hf, rfl⟩)
  · intro node hnode
    rcases mem_flat hnode with rfl | ⟨f, hf, rfl⟩
    · rfl
    · simp [flat, lookup]
  · rfl

theorem lookup_flat {p : Place} {e : Entry} (h : (flat files).lookup p = some e) :
    e = .directory ∨ ∃ f ∈ files, p = ["src", f.1] ∧ e = .file f.2 := by
  by_cases hp : p = []
  · subst hp
    exact .inl (Option.some.inj h).symm
  · rcases mem_flat (mem_of_lookup h hp) with heq | ⟨f, hf, heq⟩
    · exact .inl (Prod.ext_iff.1 heq).2
    · exact .inr ⟨f, hf, Prod.ext_iff.1 heq⟩

/-- A place is reached as it is written unless it goes on below a file: no link stands anywhere. -/
theorem plain_flat {p : Place} (hp : Nameable p)
    (hends : ∀ name ∈ files.map Prod.fst, ["src", name] <+: p → p = ["src", name]) :
    (flat files).Plain p := by
  refine ⟨fun name hn => (hp.names name hn).1,
    fun name hn => (hp.names name hn).2, hp.noNul, ?_, ?_⟩
  · intro q hq target hl
    rcases lookup_flat hl with h | ⟨f, -, -, h⟩ <;> cases h
  · intro q hq hne content hl
    rcases lookup_flat hl with h | ⟨f, hf, rfl, -⟩
    · cases h
    · exact hne (hends f.1 (List.mem_map.2 ⟨f, hf, rfl⟩) hq).symm

section Reached

variable {p : Place} {rel : String}

theorem plain_source : (flat files).Plain ["src"] := plain_flat ⟨by decide, by simp⟩ (by simp)

theorem plain_output (hp : Nameable ("out" :: p)) :
    (flat files).Plain ("out" :: p) := plain_flat hp (by simp)

theorem new_source (hs : (flat files).Sound) :
    RootedPath.new (flat files) "/src" = .ok ⟨["src"], ["src"]⟩ :=
  RootedPath.new_text (p := ["src"]) hs plain_source

theorem new_output (hs : (flat files).Sound) :
    RootedPath.new (flat files) "/out" = .ok ⟨["out"], ["out"]⟩ :=
  RootedPath.new_text (p := ["out"]) hs (plain_output ⟨by decide, by simp⟩)

theorem join_point (hs : (flat files).Sound) :
    (⟨["src"], ["src"]⟩ : RootedPath).join (flat files) "." = .ok ⟨["src"], ["src"]⟩ :=
  RootedPath.join_point hs plain_source rfl (by simp)

theorem plain_inSource (hp : Nameable ("src" :: p))
    (hends : ∀ name ∈ files.map Prod.fst, [name] <+: p → p = [name]) :
    (flat files).Plain ("src" :: p) := by
  refine plain_flat hp fun name hn h => ?_
  rw [hends name hn (List.cons_prefix_cons.1 h).2]

/-- A name in the source directory, or a place further below, is joined to it as it is written. -/
theorem join_source (hs : (flat files).Sound) (hp : Nameable ("src" :: p))
    (hends : ∀ name ∈ files.map Prod.fst, [name] <+: p → p = [name])
    (htext : joinText "/src" rel = Place.text ("src" :: p)) :
    (⟨["src"], ["src"]⟩ : RootedPath).join (flat files) rel = .ok ⟨["src"], "src" :: p⟩ :=
  RootedPath.join_text hs (plain_inSource hp hends) htext (by simp)

theorem entry_source (hs : (flat files).Sound) (hp : Nameable ("src" :: p))
    (hends : ∀ name ∈ files.map Prod.fst, [name] <+: p → p = [name])
    (hnul : (Place.text ("src" :: p)).contains '\x00' = false)
    (hlen : (Place.text ("src" :: p)).utf8ByteSize < pathLimit) :
    (flat files).entry true (Place.text ("src" :: p)) =
      ((flat files).lookup ("src" :: p)).elim (.error .notFound) .ok :=
  (plain_inSource hp hends).entry_text hs (by simp) hnul hlen

theorem join_output (hs : (flat files).Sound) {r : RootedPath} (hp : Nameable ("out" :: p))
    (htext : joinText r.text rel = Place.text ("out" :: p)) (hroot : r.root <+: "out" :: p) :
    r.join (flat files) rel = .ok ⟨r.root, "out" :: p⟩ :=
  RootedPath.join_text hs (plain_output hp) htext hroot

theorem reRoot_output (hs : (flat files).Sound) (hp : Nameable ("out" :: p))
    (htext : joinText "/out" rel = Place.text ("out" :: p)) :
    (⟨["out"], ["out"]⟩ : RootedPath).reRoot (flat files) rel = .ok ⟨"out" :: p, "out" :: p⟩ := by
  have hjoin :
      (⟨["out"], ["out"]⟩ : RootedPath).join (flat files) rel = .ok ⟨["out"], "out" :: p⟩ :=
    join_output hs hp htext (by simp)
  unfold RootedPath.reRoot
  rw [hjoin]

end Reached

variable {t : Tree}

theorem readText_of_entry {path text : String}
    (h : t.entry true path = .ok (.file (Text.utf8 text.toList))) : t.readText path = .ok text := by
  unfold readText
  rw [h]
  simp only [bind, Except.bind, Text.decode?_utf8, String.ofList_toList]
  rfl

theorem readText_of_error {path : String} {e : IoFailure} (h : t.entry true path = .error e) :
    t.readText path = .error e := by
  unfold readText
  rw [h]
  rfl

end Files.Tree

/-! ## A cargo package with a manifest and a lock file -/

namespace Cargo

open Tree

/-- The surroundings of a run on a source directory with a manifest and a lock file. -/
def crateSurroundings (manifest lock : String) (mode : Mode)
    (lookup : String → Except Error Checkout) :
    Surroundings where
  tree := flat [(Manifest.cargoFile, Text.utf8 manifest.toList),
    (Lockfile.fileName, Text.utf8 lock.toList)]
  sourceDir := ⟨["src"], ["src"]⟩
  outputDir := ⟨["out"], ["out"]⟩
  mode := mode
  lookup := lookup

def crateDeps : RootedPath := ⟨["out", "deps", "cargo"], ["out", "deps", "cargo"]⟩

variable {manifest lock : String} {mode : Mode} {lookup : String → Except Error Checkout}

theorem crate_sound : (flat [(Manifest.cargoFile, Text.utf8 manifest.toList),
    (Lockfile.fileName, Text.utf8 lock.toList)]).Sound :=
  flat_sound (by simp only [List.map_cons, List.map_nil]; decide)

theorem join_inSource (p : Place) {rel : String} (hp : Nameable ("src" :: p))
    (hends : ∀ name ∈ [Manifest.cargoFile, Lockfile.fileName], [name] <+: p → p = [name])
    (htext : joinText "/src" rel = Place.text ("src" :: p)) :
    (⟨["src"], ["src"]⟩ : RootedPath).join (crateSurroundings manifest lock mode lookup).tree rel =
      .ok ⟨["src"], "src" :: p⟩ :=
  join_source crate_sound hp hends htext

theorem entry_inSource (p : Place) (hp : Nameable ("src" :: p))
    (hends : ∀ name ∈ [Manifest.cargoFile, Lockfile.fileName], [name] <+: p → p = [name])
    (hnul : (Place.text ("src" :: p)).contains '\x00' = false)
    (hlen : (Place.text ("src" :: p)).utf8ByteSize < pathLimit) :
    (crateSurroundings manifest lock mode lookup).tree.entry true (Place.text ("src" :: p)) =
      ((crateSurroundings manifest lock mode lookup).tree.lookup ("src" :: p)).elim
      (.error .notFound) .ok :=
  entry_source crate_sound hp hends hnul hlen

theorem join_lock :
    (⟨["src"], ["src"]⟩ : RootedPath).join (crateSurroundings manifest lock mode lookup).tree
    Lockfile.fileName = .ok ⟨["src"], ["src", "Cargo.lock"]⟩ :=
  join_inSource ["Cargo.lock"] ⟨by decide, by simp⟩ (by decide) rfl

theorem readText_manifest :
    (crateSurroundings manifest lock mode lookup).readText ⟨["src"], ["src", "Cargo.toml"]⟩ =
    .ok manifest := by
  have hentry : (crateSurroundings manifest lock mode lookup).tree.entry true "/src/Cargo.toml" =
      .ok (.file (Text.utf8 manifest.toList)) :=
    entry_inSource ["Cargo.toml"] ⟨by decide, by simp⟩ (by decide) (by simp; decide) (by decide)
  unfold Surroundings.readText
  rw [show RootedPath.text ⟨["src"], ["src", "Cargo.toml"]⟩ = "/src/Cargo.toml" from rfl,
    readText_of_entry hentry]
  rfl

theorem readText_lock :
    (crateSurroundings manifest lock mode lookup).readText ⟨["src"], ["src", "Cargo.lock"]⟩ =
    .ok lock := by
  have hentry : (crateSurroundings manifest lock mode lookup).tree.entry true "/src/Cargo.lock" =
      .ok (.file (Text.utf8 lock.toList)) :=
    entry_inSource ["Cargo.lock"] ⟨by decide, by simp⟩ (by decide) (by simp; decide) (by decide)
  unfold Surroundings.readText
  rw [show RootedPath.text ⟨["src"], ["src", "Cargo.lock"]⟩ = "/src/Cargo.lock" from rfl,
    readText_of_entry hentry]
  rfl

/-- Without settings of cargo in the source directory none are kept. -/
theorem sanitizedConfig_crate :
    sanitizedConfig (crateSurroundings manifest lock mode lookup) ⟨["src"], ["src"]⟩
      configFiles = .ok none := by
  have hconfig :
      (⟨["src"], ["src"]⟩ : RootedPath).join (crateSurroundings manifest lock mode lookup).tree
      ".cargo/config.toml" = .ok ⟨["src"], ["src", ".cargo", "config.toml"]⟩ :=
    join_inSource [".cargo", "config.toml"] ⟨by decide, by simp⟩ (by decide) rfl
  have hother :
      (⟨["src"], ["src"]⟩ : RootedPath).join (crateSurroundings manifest lock mode lookup).tree
      ".cargo/config" = .ok ⟨["src"], ["src", ".cargo", "config"]⟩ :=
    join_inSource [".cargo", "config"] ⟨by decide, by simp⟩ (by decide) rfl
  have hnoConfig :
      (crateSurroundings manifest lock mode lookup).tree.entry true "/src/.cargo/config.toml" =
      .error .notFound :=
    entry_inSource [".cargo", "config.toml"] ⟨by decide, by simp⟩ (by decide)
      (by simp; decide) (by decide)
  have hnoOther :
      (crateSurroundings manifest lock mode lookup).tree.entry true "/src/.cargo/config" =
      .error .notFound :=
    entry_inSource [".cargo", "config"] ⟨by decide, by simp⟩ (by decide)
      (by simp; decide) (by decide)
  simp only [sanitizedConfig, configFiles, hconfig, hother, bind, Except.bind,
    Surroundings.readOptional,
    show RootedPath.text ⟨["src"], ["src", ".cargo", "config.toml"]⟩ = "/src/.cargo/config.toml"
    from rfl,
    show RootedPath.text ⟨["src"], ["src", ".cargo", "config"]⟩ = "/src/.cargo/config" from rfl,
    readText_of_error hnoConfig, readText_of_error hnoOther, if_true]

theorem join_crate {place : String} (hp : Nameable ["out", "deps", "cargo", place])
    (htext : joinText "/out/deps/cargo" place = Place.text ["out", "deps", "cargo", place]) :
    crateDeps.join (crateSurroundings manifest lock mode lookup).tree place =
      .ok ⟨["out", "deps", "cargo"], ["out", "deps", "cargo", place]⟩ :=
  join_output crate_sound hp htext (by simp [crateDeps])

theorem reRoot_crateDeps : (⟨["out"], ["out"]⟩ : RootedPath).reRoot
    (crateSurroundings manifest lock mode lookup).tree depsDir = .ok crateDeps :=
  reRoot_output crate_sound ⟨by decide, by simp⟩ rfl

theorem resolvePackage_crate : resolvePackage (crateSurroundings manifest lock mode lookup)
    (PackageRequest.simple .cargo ".") = resolve
    (crateSurroundings manifest lock mode lookup) ⟨["src"], ["src"]⟩ := by
  have hsource : (crateSurroundings manifest lock mode lookup).sourceDir.join
      (crateSurroundings manifest lock mode lookup).tree "." = .ok ⟨["src"], ["src"]⟩ :=
        join_point crate_sound
  simp only [resolvePackage, PackageRequest.simple, hsource, bind, Except.bind]

theorem resolve_crate {identity : Identity} {crates : List LockedCrate} {checkout : Option Checkout}
    {entries : List (Option Artifact × Component)}
    (hidentity : Manifest.cargoIdentity manifest "src" = .ok identity)
    (hcrates : Lockfile.parse lock = .ok crates)
    (hcheckout :
      (crateSurroundings manifest lock mode lookup).provenanceOf ⟨["src"], ["src"]⟩ = .ok checkout)
    (hentries :
      crates.mapM
        (entryOf (crateSurroundings manifest lock mode lookup) crateDeps "Cargo.lock" checkout) =
          .ok entries) :
    resolvePackage (crateSurroundings manifest lock mode lookup)
      (PackageRequest.simple .cargo ".") = .ok {
      ecosystem := .cargo
      path := "."
      identity := identity
      checkout := checkout
      artifacts := entries.filterMap (·.1)
      components := Component.firstOfEach
        (Component.ofLocal .cargo identity.name (mainVersion identity crates) checkout ::
          entries.map (·.2))
      sanitizedConfig := none } := by
  have hmanifest :
      (⟨["src"], ["src"]⟩ : RootedPath).join (crateSurroundings manifest lock mode lookup).tree
      Manifest.cargoFile = .ok ⟨["src"], ["src", "Cargo.toml"]⟩ :=
    join_inSource ["Cargo.toml"] ⟨by decide, by simp⟩ (by decide) rfl
  have hdeps : (crateSurroundings manifest lock mode lookup).outputDir.reRoot
      (crateSurroundings manifest lock mode lookup).tree depsDir = .ok crateDeps := reRoot_crateDeps
  have hname : directoryName ⟨["src"], ["src"]⟩ = "src" := rfl
  have hsubpath : RootedPath.subpath ⟨["src"], ["src", "Cargo.lock"]⟩ = "Cargo.lock" := by
    simp [RootedPath.subpath]
  rw [resolvePackage_crate]
  simp only [resolve, hmanifest, readText_manifest, hname, hidentity, join_lock, readText_lock,
    hcrates, hcheckout, hdeps, hsubpath, hentries, sanitizedConfig_crate, bind, Except.bind]
  rfl

end Cargo

end FetchPlan
