import FetchPlan.Proofs.ByteOrder
import FetchPlan.Proofs.ChecksumRecords
import FetchPlan.Proofs.PackageUrlText
import Mathlib.Data.Finset.Sort
import Mathlib.Data.String.Basic

/-!
Package URLs that are made setting by setting. The version is that of the last setting of one
(`version_build`), the value under a key the last one that is not empty (`qualifier_build`), and
the keys ascend (`ascendingKeys_build`). Since ascending qualifiers are told by what stands under
each key (`eq_of_ascendingKeys`), a package URL is made of what was set last under each key, and
its text shows nothing else of the settings (`render_build`).

What is proved of any list of settings: the text and the order of its keys, that settings of
different subjects may change places, that an empty value under a key does nothing, and that a
setting made twice in a row is made once.
-/
namespace FetchPlan.PackageUrl

/-- One step in the making of a package URL. -/
inductive Setting where
  | version (v : Option String)
  | qualifier (key value : String)
  deriving DecidableEq, Repr

namespace Setting

def subject : Setting → Option String
  | .version _ => none
  | .qualifier key _ => some key

def version? : Setting → Option (Option String)
  | .version v => some v
  | .qualifier _ _ => none

def value? (key : String) : Setting → Option String
  | .version _ => none
  | .qualifier k v => if k = key ∧ v ≠ "" then some v else none

def key? : Setting → Option String
  | .version _ => none
  | .qualifier k v => if v = "" then none else some k

/-- Whether a setting gives an empty value to a qualifier. -/
def isIdle : Setting → Bool
  | .version _ => false
  | .qualifier _ v => v == ""

end Setting

def set (p : PackageUrl) : Setting → PackageUrl
  | .version v => p.withVersion v
  | .qualifier key value => p.withQualifier key value

/-- The package URL of a type and a name, with settings made one after the other. -/
def build (type name : String) (settings : List Setting) :
    PackageUrl := settings.foldl set (ofName type name)

/-! ## What was set last -/

/-- The version of the last setting of one, unless it is empty. -/
def lastVersion (settings : List Setting) : Option String :=
  (settings.filterMap Setting.version?).getLast?.join.filter (· ≠ "")

/-- The last value under a key that is not empty. -/
def lastValue (key : String) (settings : List Setting) : Option String :=
  (settings.filterMap (Setting.value? key)).getLast?

/-- The keys that were ever given a value, in ascending order. -/
def keysOf (settings : List Setting) :
    List String := (settings.filterMap Setting.key?).toFinset.sort (· ≤ ·)

def valuesOf (settings : List Setting) : List (String × String) :=
  (keysOf settings).filterMap fun key => (lastValue key settings).map fun value => (key, value)

def encode (keep : Char → Bool) (s : String) :
    String := String.ofList (Text.percentEncode keep s.toList)

def versionText : Option String → String
  | some v => "@" ++ encode plainInValue v
  | none => ""

/-- The text of qualifiers: the first comes after `?`, the others after `&`. -/
def qualifiersText : List (String × String) → String
  | [] => ""
  | qs => "?" ++ "&".intercalate (qs.map fun q => q.1 ++ "=" ++ encode plainInValue q.2)

/-- The text of a package URL, told from what was set last. -/
def settledText (type name : String) (settings : List Setting) : String :=
  "pkg:" ++ type ++ "/" ++ encode plainInName (normalName type name) ++
    versionText (lastVersion settings) ++
    qualifiersText (valuesOf settings)

/-! ## One setting -/

section Set

variable (p : PackageUrl)

@[simp]
theorem set_type : ∀ s : Setting, (p.set s).type = p.type
  | .version _ => rfl
  | .qualifier _ value => by by_cases h : value = "" <;> simp [set, withQualifier, h]

@[simp]
theorem set_name : ∀ s : Setting, (p.set s).name = p.name
  | .version _ => rfl
  | .qualifier _ value => by by_cases h : value = "" <;> simp [set, withQualifier, h]

theorem set_version :
    ∀ s : Setting, (p.set s).version = s.version?.elim p.version (·.filter (· ≠ ""))
  | .version _ => rfl
  | .qualifier _ value => by
    by_cases h : value = "" <;> simp [set, withQualifier, Setting.version?, h]

theorem qualifier_set (key : String) :
    ∀ s : Setting, (p.set s).qualifier key = (s.value? key).or (p.qualifier key)
  | .version _ => rfl
  | .qualifier k value => by
    rw [set, qualifier_withQualifier, Setting.value?]
    by_cases h : key = k ∧ value ≠ ""
    · rw [if_pos h, if_pos ⟨h.1.symm, h.2⟩, Option.some_or]
    · rw [if_neg h, if_neg fun hk => h ⟨hk.1.symm, hk.2⟩, Option.none_or]

end Set

/-- Whether the keys of qualifiers ascend strictly. -/
def AscendingKeys (qs : List (String × String)) : Prop := qs.Pairwise fun q r => q.1 < r.1

theorem ascendingKeys_insertSorted (key value : String) :
    ∀ {qs : List (String × String)}, AscendingKeys qs →
    AscendingKeys (insertSorted key value qs)
  | [], _ => List.pairwise_singleton _ _
  | (k, v) :: qs, h => by
    obtain ⟨hk, hqs⟩ := List.pairwise_cons.1 h
    unfold insertSorted
    split
    · next hlt =>
      refine .cons (fun q hq => ?_) h
      rcases List.mem_cons.1 hq with rfl | hq
      · exact hlt
      · exact String.lt_trans hlt (hk q hq)
    split
    · next heq => exact .cons (heq ▸ hk) hqs
    · next hlt hne =>
      refine .cons (fun q hq => ?_) (ascendingKeys_insertSorted key value hqs)
      rcases mem_insertSorted hq with rfl | hq
      · exact lt_of_le_of_ne (not_lt.1 hlt) (Ne.symm hne)
      · exact hk q hq

theorem ascendingKeys_set {p : PackageUrl} (h : AscendingKeys p.qualifiers) : ∀ s : Setting,
    AscendingKeys (p.set s).qualifiers
  | .version _ => h
  | .qualifier key value => by
    by_cases hv : value = ""
    · simpa [set, withQualifier, hv] using h
    · simpa [set, withQualifier, hv] using ascendingKeys_insertSorted key value h

theorem mem_iff_lookup {key value : String} : ∀ {qs : List (String × String)}, AscendingKeys qs →
    ((key, value) ∈ qs ↔ qs.lookup key = some value)
  | [], _ => by simp
  | (k, v) :: qs, h => by
    obtain ⟨hk, hqs⟩ := List.pairwise_cons.1 h
    have ih : (key, value) ∈ qs ↔ qs.lookup key = some value := mem_iff_lookup hqs
    rw [List.mem_cons, Prod.mk.injEq, lookup_pair]
    by_cases heq : key = k
    · subst heq
      have hout : (key, value) ∉ qs := fun hmem => String.lt_irrefl key (hk _ hmem)
      simp [hout, eq_comm]
    · simp [heq, ih]

/-- Qualifiers whose keys ascend are told by what stands under each key. -/
theorem eq_of_ascendingKeys {qs rs : List (String × String)} (hq : AscendingKeys qs)
    (hr : AscendingKeys rs) (h : ∀ key, qs.lookup key = rs.lookup key) : qs = rs := by
  have : Std.Irrefl fun q r : String × String => q.1 < r.1 := ⟨fun q => String.lt_irrefl q.1⟩
  have : Std.Antisymm fun q r : String × String => q.1 < r.1 :=
    ⟨fun q r hqr hrq => absurd (String.lt_trans hqr hrq) (String.lt_irrefl q.1)⟩
  refine hq.eq_of_mem_iff hr fun ⟨key, value⟩ => ?_
  rw [mem_iff_lookup hq, mem_iff_lookup hr, h]

/-! ## All settings -/

variable {type name : String}

theorem build_concat (settings : List Setting) (s : Setting) :
    build type name (settings ++ [s]) = (build type name settings).set s := by
  rw [build, build, List.foldl_append]
  rfl

theorem lastVersion_concat (settings : List Setting) (s : Setting) :
    lastVersion (settings ++ [s]) = s.version?.elim (lastVersion settings) (·.filter (· ≠ "")) := by
  unfold lastVersion
  rw [List.filterMap_append, List.getLast?_append]
  cases s <;> rfl

theorem lastValue_concat (key : String) (settings : List Setting) (s : Setting) :
    lastValue key (settings ++ [s]) = (s.value? key).or (lastValue key settings) := by
  unfold lastValue
  rw [List.filterMap_append, List.getLast?_append]
  cases h : s.value? key <;> simp [h]

section Build

variable (settings : List Setting)

theorem type_build : (build type name settings).type = type := by
  induction settings using List.reverseRecOn with
  | nil => rfl
  | append_singleton settings s ih => rw [build_concat, set_type, ih]

theorem name_build : (build type name settings).name = normalName type name := by
  induction settings using List.reverseRecOn with
  | nil => rfl
  | append_singleton settings s ih => rw [build_concat, set_name, ih]

theorem version_build : (build type name settings).version = lastVersion settings := by
  induction settings using List.reverseRecOn with
  | nil => rfl
  | append_singleton settings s ih => rw [build_concat, set_version, lastVersion_concat, ih]

theorem qualifier_build (key : String) :
    (build type name settings).qualifier key = lastValue key settings := by
  induction settings using List.reverseRecOn with
  | nil => rfl
  | append_singleton settings s ih => rw [build_concat, qualifier_set, lastValue_concat, ih]

theorem ascendingKeys_build : AscendingKeys (build type name settings).qualifiers := by
  induction settings using List.reverseRecOn with
  | nil => exact .nil
  | append_singleton settings s ih =>
    rw [build_concat]
    exact ascendingKeys_set ih s

end Build

/-- A package URL is told by the last version and the last value under each key. -/
theorem build_congr {settings settings' : List Setting}
    (hversion : lastVersion settings = lastVersion settings')
    (hvalue : ∀ key, lastValue key settings = lastValue key settings') :
    build type name settings = build type name settings' := by
  have hqualifiers :
      (build type name settings).qualifiers = (build type name settings').qualifiers := by
    refine eq_of_ascendingKeys (ascendingKeys_build settings)
      (ascendingKeys_build settings') fun key => ?_
    show (build type name settings).qualifier key = (build type name settings').qualifier key
    rw [qualifier_build, qualifier_build, hvalue]
  have hall : ∀ p q : PackageUrl, p.type = q.type → p.name = q.name → p.version = q.version →
      p.qualifiers = q.qualifiers → p = q := by
    rintro ⟨_, _, _, _⟩ ⟨_, _, _, _⟩ rfl rfl rfl rfl
    rfl
  refine hall _ _ ?_ ?_ ?_ hqualifiers
  · rw [type_build, type_build]
  · rw [name_build, name_build]
  · rw [version_build, version_build, hversion]

/-! ## The text -/

theorem value?_eq_some_iff {key value : String} {s : Setting} :
    s.value? key = some value ↔ s = .qualifier key value ∧ value ≠ "" := by
  cases s with
  | version v => simp [Setting.value?]
  | qualifier k v =>
    simp only [Setting.value?, Option.ite_none_right_eq_some, Option.some.injEq,
      Setting.qualifier.injEq]
    constructor
    · rintro ⟨⟨rfl, hv⟩, rfl⟩
      exact ⟨⟨rfl, rfl⟩, hv⟩
    · rintro ⟨⟨rfl, rfl⟩, hv⟩
      exact ⟨⟨rfl, hv⟩, rfl⟩

theorem key?_eq_some_iff {key : String} {s : Setting} :
    s.key? = some key ↔ ∃ value, value ≠ "" ∧ s = .qualifier key value := by
  cases s with
  | version v => simp [Setting.key?]
  | qualifier k v => simp [Setting.key?, and_comm]

theorem mem_keysOf {settings : List Setting} {key : String} :
    key ∈ keysOf settings ↔ ∃ value, value ≠ "" ∧ Setting.qualifier key value ∈ settings := by
  unfold keysOf
  rw [Finset.mem_sort, List.mem_toFinset, List.mem_filterMap]
  simp only [key?_eq_some_iff]
  constructor
  · rintro ⟨s, hs, value, hv, rfl⟩
    exact ⟨value, hv, hs⟩
  · rintro ⟨value, hv, hs⟩
    exact ⟨_, hs, value, hv, rfl⟩

theorem mem_of_lastValue {settings : List Setting} {key value : String}
    (h : lastValue key settings = some value) :
    value ≠ "" ∧ Setting.qualifier key value ∈ settings := by
  obtain ⟨s, hs, hvalue⟩ := List.mem_filterMap.1 (List.mem_of_getLast? h)
  obtain ⟨rfl, hv⟩ := value?_eq_some_iff.1 hvalue
  exact ⟨hv, hs⟩

theorem isSome_lastValue {settings : List Setting} {key : String} (h : key ∈ keysOf settings) :
    (lastValue key settings).isSome := by
  obtain ⟨value, hv, hs⟩ := mem_keysOf.1 h
  have hmem : value ∈ settings.filterMap (Setting.value? key) :=
    List.mem_filterMap.2 ⟨_, hs, value?_eq_some_iff.2 ⟨rfl, hv⟩⟩
  exact List.getLast?_isSome.2 (List.ne_nil_of_mem hmem)

theorem lt_keysOf (settings : List Setting) : (keysOf settings).Pairwise (· < ·) :=
  (Finset.sortedLT_sort _).pairwise

theorem mem_valuesOf {settings : List Setting} {key value : String} :
    (key, value) ∈ valuesOf settings ↔ lastValue key settings = some value := by
  unfold valuesOf
  simp only [List.mem_filterMap, Option.map_eq_some_iff, Prod.mk.injEq]
  constructor
  · rintro ⟨_, -, _, hvalue, rfl, rfl⟩
    exact hvalue
  · intro h
    exact ⟨key, mem_keysOf.2 ⟨value, mem_of_lastValue h⟩, value, h, rfl, rfl⟩

theorem map_fst_valuesOf (settings : List Setting) :
    (valuesOf settings).map Prod.fst = keysOf settings := by
  have hkey : ∀ key ∈ keysOf settings,
      ((lastValue key settings).map fun value => (key, value)).map Prod.fst = some key := by
    intro key hkey
    obtain ⟨value, hvalue⟩ := Option.isSome_iff_exists.1 (isSome_lastValue hkey)
    rw [hvalue]
    rfl
  rw [valuesOf, List.map_filterMap, List.filterMap_congr hkey, List.filterMap_some]

theorem ascendingKeys_valuesOf (settings : List Setting) : AscendingKeys (valuesOf settings) := by
  have h := lt_keysOf settings
  rw [← map_fst_valuesOf, List.pairwise_map] at h
  exact h

theorem qualifiers_build (settings : List Setting) :
    (build type name settings).qualifiers = valuesOf settings := by
  have hvalues := ascendingKeys_valuesOf settings
  refine eq_of_ascendingKeys (ascendingKeys_build settings) hvalues fun key =>
    Option.ext fun value => ?_
  show (build type name settings).qualifier key = some value ↔ _
  rw [← mem_iff_lookup hvalues, mem_valuesOf, qualifier_build]

theorem toList_qualifiersText :
    ∀ qs : List (String × String), (qualifiersText qs).toList = renderQualifiers '?' qs
  | [] => rfl
  | q :: qs => by
    have htext : ∀ q : String × String,
        (q.1 ++ "=" ++ encode plainInValue q.2).toList = renderQualifier q := fun q => by
      simp [encode, renderQualifier]
    rw [renderQualifiers_cons, qualifiersText, String.toList_append,
      String.toList_intercalate, List.map_map]
    · simp only [Function.comp_def, htext]
      rfl
    · simp

theorem render_build_eq (settings : List Setting) :
    (build type name settings).render = settledText type name settings := by
  rw [← String.toList_inj, render, String.toList_ofList, renderChars, type_build, name_build,
    version_build, qualifiers_build, settledText, String.toList_append, toList_qualifiersText]
  cases lastVersion settings <;> simp [versionText, encode]

/-! ## Settings that make no difference -/

/-- What settings yield does not show those that yield nothing. -/
theorem filterMap_filter_of {α : Type} {f : Setting → Option α} {keep : Setting → Bool}
    (h : ∀ s, keep s = false → f s = none) (settings : List Setting) :
    (settings.filter keep).filterMap f = settings.filterMap f := by
  rw [List.filterMap_filter]
  refine List.filterMap_congr fun s _ => ?_
  cases hs : keep s with
  | true => rfl
  | false => exact (h s hs).symm

/-- Settings of different things may change places. -/
theorem build_of_subjects {settings settings' : List Setting}
    (h : ∀ subject,
      settings.filter (·.subject = subject) = settings'.filter (·.subject = subject)) :
    build type name settings = build type name settings' := by
  have hyields : ∀ {α : Type} {f : Setting → Option α} (subject : Option String),
      (∀ s : Setting, s.subject ≠ subject → f s = none) →
      settings.filterMap f = settings'.filterMap f := by
    intro α f subject hf
    have hnone : ∀ s : Setting, decide (s.subject = subject) = false → f s = none :=
      fun s hs => hf s (by simpa using hs)
    rw [← filterMap_filter_of hnone settings, ← filterMap_filter_of hnone settings', h subject]
  refine build_congr ?_ fun key => ?_
  · unfold lastVersion
    rw [hyields none fun s hs => by cases s <;> simp_all [Setting.subject, Setting.version?]]
  · unfold lastValue
    rw [hyields (some key) fun s hs => by cases s <;> simp_all [Setting.subject, Setting.value?]]

theorem build_of_idle (settings : List Setting) :
    build type name (settings.filter (!·.isIdle)) = build type name settings := by
  refine build_congr ?_ fun key => ?_
  · unfold lastVersion
    rw [filterMap_filter_of fun s hs => by cases s <;> simp_all [Setting.isIdle, Setting.version?]]
  · unfold lastValue
    rw [filterMap_filter_of fun s hs => by cases s <;> simp_all [Setting.isIdle, Setting.value?]]

theorem insertSorted_insertSorted (key value : String) : ∀ qs : List (String × String),
    insertSorted key value (insertSorted key value qs) = insertSorted key value qs
  | [] => by simp [insertSorted]
  | (k, v) :: qs => by
    have ih := insertSorted_insertSorted key value qs
    by_cases hlt : key < k
    · simp [insertSorted, hlt]
    · by_cases heq : key = k
      · simp [insertSorted, heq]
      · simp [insertSorted, hlt, heq, ih]

theorem set_set (p : PackageUrl) : ∀ s : Setting, (p.set s).set s = p.set s
  | .version _ => rfl
  | .qualifier key value => by
    by_cases hv : value = ""
    · simp [set, withQualifier, hv]
    · simp [set, withQualifier, hv, insertSorted_insertSorted]

theorem build_of_repeated (before after : List Setting) (s : Setting) :
    build type name (before ++ s :: s :: after) = build type name (before ++ s :: after) := by
  simp only [build, List.foldl_append, List.foldl_cons, set_set]

/-- The text of a package URL shows what was set last, and nothing else of how it was made: the
type, the encoded name, the version of the last setting of one, and for each key that was ever
given a value the last one, with the keys in strictly ascending order of their bytes. So it stays
the same when settings of different things change places, when empty values are given to qualifiers
anywhere, and when a setting is made twice. -/
theorem render_build (type name : String) (settings : List Setting) :
    (build type name settings).render = settledText type name settings ∧
    (valuesOf settings).map Prod.fst = keysOf settings ∧
    (keysOf settings).Pairwise (fun k l => Text.utf8 k.toList < Text.utf8 l.toList) ∧
    (∀ key, key ∈ keysOf settings ↔ ∃ value, value ≠ "" ∧ Setting.qualifier key value ∈ settings) ∧
    (∀ settings',
      (∀ subject, settings'.filter (·.subject = subject) = settings.filter (·.subject = subject)) →
      (build type name settings').render = (build type name settings).render) ∧
    (build type name (settings.filter (!·.isIdle))).render = (build type name settings).render ∧
    ∀ before s after, (build type name (before ++ s :: s :: after)).render =
      (build type name (before ++ s :: after)).render := by
  refine ⟨render_build_eq settings, map_fst_valuesOf settings, ?_, fun key => mem_keysOf,
    fun settings' h => ?_, ?_, fun before s after => ?_⟩
  · exact (lt_keysOf settings).imp fun h => Text.utf8_lt_iff.2 (String.lt_iff.1 h)
  · rw [build_of_subjects h]
  · rw [build_of_idle]
  · rw [build_of_repeated]

/-- Settings with an empty value, and with values that are set again. -/
def mixedSettings : List Setting :=
  [.qualifier "vcs" "1", .version (some "1"), .qualifier "arch" "x y", .qualifier "vcs" "",
    .qualifier "vcs" "2", .version (some "2")]

def mixedAgain : List Setting :=
  [.version (some "1"), .version (some "2"), .qualifier "vcs" "1", .qualifier "vcs" "",
    .qualifier "vcs" "2", .qualifier "arch" "x y"]

theorem render_build_mixed :
    (∀ subject, mixedAgain.filter (·.subject = subject) =
      mixedSettings.filter (·.subject = subject)) ∧
    (build "pypi" "Grün_Pkg" mixedAgain).render = (build "pypi" "Grün_Pkg" mixedSettings).render ∧
    (build "pypi" "Grün_Pkg" mixedSettings).render =
      "pkg:pypi/gr%C3%BCn-pkg@2?arch=x%20y&vcs=2" := by
  have hsame : ∀ subject,
      mixedAgain.filter (·.subject = subject) = mixedSettings.filter (·.subject = subject) := by
    intro subject
    by_cases hnone : subject = none
    · subst hnone
      decide
    · by_cases hvcs : subject = some "vcs"
      · subst hvcs
        decide
      · by_cases harch : subject = some "arch"
        · subst harch
          decide
        · simp [mixedAgain, mixedSettings, Setting.subject, eq_comm, hnone, hvcs, harch]
  exact ⟨hsame, (render_build _ _ mixedSettings).2.2.2.2.1 _ hsame, by decide +kernel⟩

end FetchPlan.PackageUrl
