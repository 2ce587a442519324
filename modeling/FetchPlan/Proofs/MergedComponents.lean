import FetchPlan.Proofs.ByteOrder
import FetchPlan.Proofs.FirstOccurrences
import FetchPlan.Report.Basic

/-!
The components of a report. Components are sorted by an order that tells any two of them apart
(`eq_of_order`), and then the first one of each package URL is kept. So package URLs ascend
strictly, none is lost (`purl_lt_merge`, `mem_purl_merge`), and the list does not depend on the
order in which the packages were resolved, even where their components agree in the package URL
alone (`components_canonical`).

What is proved of any list of resolutions, in any order: the package URLs ascend strictly by their
bytes, are those of the packages and no others, and each component is one that a package has.
Nothing is assumed.
-/
namespace FetchPlan

namespace Component

/-! ## The order of components -/

instance : Std.TransOrd Property :=
  inferInstanceAs (Std.TransCmp (compareLex (compareOn Property.name) (compareOn Property.value)))

instance : Std.TransCmp order :=
  inferInstanceAs (Std.TransCmp (compareLex _ (compareLex _ (compareLex _ _))))

theorem compare_property (q r : Property) :
    compare q r = (compare q.name r.name).then (compare q.value r.value) := rfl

theorem order_eq_then (c d : Component) :
    order c d = (compare c.purl d.purl).then ((compare c.name d.name).then
    ((compare c.version d.version).then (compare c.properties d.properties))) := rfl

instance : Std.LawfulEqOrd Property where
  compare_self := Std.ReflCmp.compare_self
  eq_of_compare {q r} h := by
    rw [compare_property, Ordering.then_eq_eq] at h
    obtain ⟨name, value⟩ := q
    obtain ⟨name', value'⟩ := r
    obtain rfl : name = name' := Std.LawfulEqOrd.eq_of_compare h.1
    obtain rfl : value = value' := Std.LawfulEqOrd.eq_of_compare h.2
    rfl

theorem eq_of_order {c d : Component} (h : order c d = .eq) : c = d := by
  simp only [order_eq_then, Ordering.then_eq_eq] at h
  obtain ⟨hpurl, hname, hversion, hproperties⟩ := h
  obtain ⟨name, version, purl, properties⟩ := c
  obtain ⟨name', version', purl', properties'⟩ := d
  obtain rfl : name = name' := Std.LawfulEqOrd.eq_of_compare hname
  obtain rfl : version = version' := Std.LawfulEqOrd.eq_of_compare hversion
  obtain rfl : purl = purl' := Std.LawfulEqOrd.eq_of_compare hpurl
  obtain rfl : properties = properties' := Std.LawfulEqOrd.eq_of_compare hproperties
  rfl

theorem purl_le_of_order {c d : Component} (h : (order c d).isLE = true) :
    (compare c.purl d.purl).isLE = true := by
  rw [order_eq_then] at h
  cases hpurl : compare c.purl d.purl with
  | lt => rfl
  | eq => rfl
  | gt => rw [hpurl] at h; cases h

def sorted (cs : List Component) : List Component := cs.mergeSort fun a b => (order a b).isLE

theorem pairwise_sorted (cs : List Component) :
    (sorted cs).Pairwise fun a b => (order a b).isLE = true := by
  refine List.pairwise_mergeSort (fun a b c => Std.TransCmp.isLE_trans) (fun a b => ?_) cs
  have hswap : order b a = (order a b).swap := Std.OrientedCmp.eq_swap
  rw [hswap]
  cases order a b <;> rfl

theorem sorted_perm (cs : List Component) : (sorted cs).Perm cs := List.mergeSort_perm cs _

/-- What is sorted does not show in which order it was given. -/
theorem sorted_eq_of_perm {cs ds : List Component} (h : cs.Perm ds) : sorted cs = sorted ds := by
  have hantisymm : ∀ a b, (order a b).isLE = true → (order b a).isLE = true → a = b :=
    fun a b hab hba => eq_of_order (Std.OrientedCmp.isLE_antisymm hab hba)
  refine List.Perm.eq_of_pairwise (fun a b _ _ => hantisymm a b) (pairwise_sorted cs)
    (pairwise_sorted ds) ?_
  exact (sorted_perm cs).trans (h.trans (sorted_perm ds).symm)

/-! ## The least component of each package URL -/

theorem merge_eq_of_perm {cs ds : List Component} (h : cs.Perm ds) : merge cs = merge ds :=
  congrArg firstOfEach (sorted_eq_of_perm h)

theorem mem_purl_merge {cs : List Component} {purl : String} :
    purl ∈ (merge cs).map Component.purl ↔ purl ∈ cs.map Component.purl :=
  mem_purl_firstOfEach.trans ((sorted_perm cs).map Component.purl).mem_iff

theorem mem_of_mem_merge {cs : List Component} {c : Component} (h : c ∈ merge cs) : c ∈ cs :=
  (sorted_perm cs).mem_iff.1 ((firstOfEach_sublist (sorted cs)).subset h)

theorem purl_lt_merge (cs : List Component) : (merge cs).Pairwise fun c d => c.purl < d.purl := by
  have hle : (merge cs).Pairwise fun c d => (order c d).isLE = true :=
    (pairwise_sorted cs).sublist (firstOfEach_sublist (sorted cs))
  have hne : (merge cs).Pairwise fun c d => c.purl ≠ d.purl :=
    List.pairwise_map.1 (nodup_firstOfEach (sorted cs))
  refine hle.imp₂ (fun c d hcd hpurl => ?_) hne
  have hisLE := purl_le_of_order hcd
  cases hcompare : compare c.purl d.purl with
  | lt => exact compareOfLessAndEq_eq_lt.1 hcompare
  | eq => exact absurd (Std.LawfulEqOrd.eq_of_compare hcompare) hpurl
  | gt => rw [hcompare] at hisLE; cases hisLE

end Component

/-! ## The report -/

/-- The components of a report ascend strictly by the bytes of their package URLs; their package
URLs are those of the packages' components, of which each is one; and they are the same in whatever
order the packages come. -/
theorem components_canonical (mode : Mode) (outputRoot : Files.Place) (rs : List Resolution)
    (failures : List PackageFailure) :
    ((Report.ofResolutions mode outputRoot rs failures).components.Pairwise fun c d =>
      Text.utf8 c.purl.toList < Text.utf8 d.purl.toList) ∧
    (∀ purl, purl ∈
      (Report.ofResolutions mode outputRoot rs failures).components.map Component.purl ↔
      ∃ r ∈ rs, purl ∈ r.components.map Component.purl) ∧
    (∀ c ∈ (Report.ofResolutions mode outputRoot rs failures).components,
      ∃ r ∈ rs, c ∈ r.components) ∧
    ∀ rs', rs.Perm rs' → (Report.ofResolutions mode outputRoot rs' failures).components =
      (Report.ofResolutions mode outputRoot rs failures).components := by
  refine ⟨?_, ?_, ?_, ?_⟩
  · exact (Component.purl_lt_merge _).imp fun h => Text.utf8_lt_iff.2 (String.lt_iff.1 h)
  · intro purl
    show purl ∈ (Component.merge (rs.flatMap Resolution.components)).map Component.purl ↔ _
    rw [Component.mem_purl_merge, List.map_flatMap, List.mem_flatMap]
  · intro c hc
    exact List.mem_flatMap.1 (Component.mem_of_mem_merge hc)
  · intro rs' h
    exact Component.merge_eq_of_perm (h.symm.flatMap_right _)

/-- Two packages that have one package URL each to themselves, and share one under other names,
versions and properties. -/
def sharingPackage (path name : String) (version : Option String) (own : String)
    (properties : List Property) :
    Resolution where
  ecosystem := .pip
  path := path
  identity := ⟨name, none⟩
  checkout := none
  artifacts := []
  components := [⟨name, none, own, []⟩, ⟨name, version, "pkg:pypi/p@1", properties⟩]
  sanitizedConfig := none

def firstSharing : Resolution :=
  sharingPackage "a" "P" (some "1") "pkg:pypi/𐍈" [⟨Component.missingHashProperty, "a.txt"⟩]

def secondSharing : Resolution := sharingPackage "b" "p" none "pkg:pypi/ａ" []

theorem components_canonical_sharing :
    [firstSharing, secondSharing].Perm [secondSharing, firstSharing] ∧
    (Report.ofResolutions .strict ["out"] [secondSharing, firstSharing] []).components =
      (Report.ofResolutions .strict ["out"] [firstSharing, secondSharing] []).components ∧
    "pkg:pypi/p@1" ∈
      (Report.ofResolutions .strict ["out"] [firstSharing, secondSharing] []).components.map
      Component.purl := by
  have hperm : [firstSharing, secondSharing].Perm [secondSharing, firstSharing] := .swap _ _ []
  obtain ⟨-, hpurl, -, hsame⟩ :=
    components_canonical .strict ["out"] [firstSharing, secondSharing] []
  exact ⟨hperm, hsame _ hperm, (hpurl _).2 ⟨secondSharing, by simp, by decide⟩⟩

end FetchPlan
