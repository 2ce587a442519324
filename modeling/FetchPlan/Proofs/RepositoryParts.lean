import FetchPlan.Proofs.UrlCredentials
import FetchPlan.Resolution.Pip

/-!
The parts of a repository's URL. A repository has a host in lower case, and its path is the
namespace and the name with any number of `.git` after it (`parts_of_parse`). So a path can be
told from its parts, up to one ending, exactly when its last segment is not such an ending alone
and does not end in two of them.

What is proved of every repository that is read: each of its parts, as it is told by the URL, and
exactly when the path of the URL can be put together from them again. Two endings in a row are
lost, and so is a name that is an ending alone (`repeated_ending_lost`).
-/
namespace FetchPlan

/-! ## Hosts -/

theorem Url.host_ne_of_parse? {text : String} {u : Url} (h : Url.parse? text = some u) :
    u.host ≠ "" := by
  rw [Url.parse?_eq] at h
  obtain ⟨⟨scheme, rest⟩, -, hrest⟩ := Option.bind_eq_some_iff.1 h
  exact (Url.isReadFrom_of_afterScheme? hrest).host

namespace Remote

theorem toLower_again (c : Char) : c.toLower.toLower = c.toLower := by
  by_cases h : 'A'.val ≤ c.val ∧ c.val ≤ 'Z'.val
  · have hlower : c.toLower.val = c.val + 32 := congrArg Char.val (dif_pos h)
    have hnot : ¬ ('A'.val ≤ c.toLower.val ∧ c.toLower.val ≤ 'Z'.val) := by
      have h₁ : 65 ≤ c.val.toNat := UInt32.le_iff_toNat_le.1 h.1
      have h₂ : c.val.toNat ≤ 90 := UInt32.le_iff_toNat_le.1 h.2
      rw [hlower, UInt32.le_iff_toNat_le, UInt32.le_iff_toNat_le, UInt32.toNat_add]
      show ¬ (_ ∧ (c.val.toNat + 32) % 4294967296 ≤ 90)
      omega
    exact dif_neg hnot
  · have hsame : c.toLower = c := dif_neg h
    rw [hsame, hsame]

theorem host?_lowered {remote host : String} (h : host? remote = some host) :
    host ≠ "" ∧ String.ofList (host.toList.map Char.toLower) = host := by
  obtain ⟨u, hu, rfl⟩ := Option.map_eq_some_iff.1 h
  have hhost : u.host ≠ "" := by
    rcases Option.or_eq_some_iff.1 hu with hu | ⟨-, hu⟩
    · exact Url.host_ne_of_parse? hu
    · obtain ⟨ssh, -, hssh⟩ := Option.bind_eq_some_iff.1 hu
      exact Url.host_ne_of_parse? hssh
  constructor
  · intro hempty
    have hnil := String.ofList_eq_empty_iff.1 hempty
    exact hhost (String.toList_eq_nil_iff.1 (List.map_eq_nil_iff.1 hnil))
  · rw [String.toList_ofList, List.map_map]
    exact congrArg String.ofList (List.map_congr_left fun c _ => toLower_again c)

theorem ne_of_mem_segments {remote segment : String} (h : segment ∈ segments remote) :
    segment ≠ "" := by
  unfold segments at h
  split at h
  · exact of_decide_eq_true (List.mem_filter.1 h).2
  · cases h

end Remote

namespace Repository

/-! ## Endings -/

def endings (n : Nat) : String := String.join (List.replicate n ".git")

theorem toList_endings (n : Nat) :
    (endings n).toList = (List.replicate n ".git".toList).flatten := by
  rw [endings, String.toList_join, List.flatMap_replicate]

theorem length_endings (n : Nat) : (endings n).toList.length = 4 * n := by
  rw [toList_endings, List.length_flatten, List.map_replicate, List.sum_replicate_nat]
  exact Nat.mul_comm n 4

theorem dropLeading_spec (s : List Char) : ∃ n,
    s = (List.replicate n "tig.".toList).flatten ++ dropGitEndings.dropLeading s ∧
      ¬ "tig.".toList <+: dropGitEndings.dropLeading s := by
  -- the induction follows the taking of one ending after the other
  induction s using dropGitEndings.dropLeading.induct with
  | case1 r ih =>
    obtain ⟨n, hr, hbare⟩ := ih
    refine ⟨n + 1, ?_, hbare⟩
    calc 't' :: 'i' :: 'g' :: '.' :: r
        = "tig.".toList ++
            ((List.replicate n "tig.".toList).flatten ++ dropGitEndings.dropLeading r) := by
          rw [← hr]; rfl
      _ = _ := by
        rw [List.replicate_succ, List.flatten_cons, List.append_assoc, dropGitEndings.dropLeading]
  | case2 s hs =>
    have hkept : dropGitEndings.dropLeading s = s := by
      unfold dropGitEndings.dropLeading
      split
      · exact absurd rfl (hs _)
      · rfl
    refine ⟨0, by rw [hkept]; rfl, ?_⟩
    rw [hkept]
    rintro ⟨r, rfl⟩
    exact hs r rfl

/-- A segment is what is left of it and the endings it has lost. -/
theorem dropGitEndings_spec (last : String) :
    ∃ n, last = String.ofList (dropGitEndings last.toList) ++ endings n ∧
    ¬ ".git".toList <:+ (String.ofList (dropGitEndings last.toList)).toList := by
  obtain ⟨n, hs, hbare⟩ := dropLeading_spec last.toList.reverse
  refine ⟨n, ?_, ?_⟩
  · rw [← String.toList_inj, String.toList_append, String.toList_ofList, toList_endings]
    calc last.toList = last.toList.reverse.reverse := (List.reverse_reverse _).symm
      _ = _ := by
        rw [hs, List.reverse_append, List.reverse_flatten, List.map_replicate,
          List.reverse_replicate]
        rfl
  · intro hending
    apply hbare
    have hfront := List.reverse_prefix.2 hending
    rwa [String.toList_ofList (l := dropGitEndings last.toList), dropGitEndings,
      List.reverse_reverse] at hfront

/-! ## Paths -/

def lead (r : Repository) : String := if r.namespacePath = "" then "" else r.namespacePath ++ "/"

/-- Whether a path is kept in the parts of a repository: the name is not empty, and the path is the
namespace and the name, with at most one ending. -/
def Keeps (r : Repository) (segments : List String) : Prop :=
  r.name ≠ "" ∧
    ("/".intercalate segments = r.lead ++ r.name ∨
      "/".intercalate segments = r.lead ++ r.name ++ ".git")

theorem intercalate_concat {names : List String} (h : ∀ name ∈ names, name ≠ "") (last : String) :
    "/".intercalate (names ++ [last]) =
      (if "/".intercalate names = "" then "" else "/".intercalate names ++ "/") ++ last := by
  cases names with
  | nil => simp
  | cons name names =>
    have hne : "/".intercalate (name :: names) ≠ "" := by
      have hname : name ≠ "" := h name List.mem_cons_self
      cases names with
      | nil => simpa using hname
      | cons => simp [String.intercalate_cons_of_ne_nil]
    rw [if_neg hne,
      String.intercalate_append_of_ne_nil (List.cons_ne_nil _ _) (List.cons_ne_nil _ _),
      String.intercalate_singleton]

/-- The parts keep the path of a name with `n` endings when there is a name, and one ending at
most. -/
theorem keeps_iff {r : Repository} {segments : List String} {n : Nat}
    (h : "/".intercalate segments = r.lead ++ (r.name ++ endings n)) :
    r.Keeps segments ↔ r.name ≠ "" ∧ n ≤ 1 := by
  -- the endings are counted in the length, which no two numbers of them share
  have hlength : (r.lead ++ (r.name ++ endings n)).toList.length =
      (r.lead ++ r.name).toList.length + 4 * n := by
    rw [← String.append_assoc, String.toList_append, List.length_append, length_endings]
  refine and_congr_right fun _ => ?_
  rw [h]
  constructor
  · rintro (he | he)
    all_goals
      rw [he] at hlength
      simp only [String.toList_append, List.length_append] at hlength
    · omega
    · have hgit : ".git".toList.length = 4 := rfl
      omega
  · intro hn
    rcases Nat.le_one_iff_eq_zero_or_eq_one.1 hn with rfl | rfl
    · exact .inl (by simp [endings])
    · exact .inr (by simp [endings, String.append_assoc])

/-- Whether a name with `n` endings is one with one ending at most, told from the whole. -/
theorem bare_and_single_iff {name last : String} {n : Nat} (hlast : last = name ++ endings n)
    (hne : last ≠ "") (hbare : ¬ ".git".toList <:+ name.toList) :
    name ≠ "" ∧ n ≤ 1 ↔ last ≠ ".git" ∧ ¬ ".git.git".toList <:+ last.toList := by
  subst hlast
  -- none and one ending are told from the whole because the name itself has none at its end
  match n with
  | 0 =>
    have hzero : name ++ endings 0 = name := by simp [endings]
    rw [hzero] at hne ⊢
    refine iff_of_true ⟨hne, Nat.zero_le 1⟩ ⟨?_, fun htwo => ?_⟩
    · rintro rfl
      exact hbare (List.suffix_refl _)
    · exact hbare (List.IsSuffix.trans ⟨".git".toList, rfl⟩ htwo)
  | 1 =>
    have hone : name ++ endings 1 = name ++ ".git" := by simp [endings]
    rw [hone]
    constructor
    · rintro ⟨hname, -⟩
      refine ⟨fun he => hname ?_, fun htwo => hbare ?_⟩
      · exact String.append_eq_right_iff.1 he
      · rw [String.toList_append] at htwo
        obtain ⟨before, hbefore⟩ := htwo
        have hname : before ++ ".git".toList ++ ".git".toList = name.toList ++ ".git".toList := by
          rw [← hbefore, List.append_assoc]
          rfl
        exact ⟨before, List.append_cancel_right hname⟩
    · rintro ⟨hlone, -⟩
      refine ⟨?_, Nat.le_refl 1⟩
      rintro rfl
      exact hlone rfl
  | n + 2 =>
    refine iff_of_false (fun h => by omega) fun h => h.2 ⟨(name ++ endings n).toList, ?_⟩
    simp [endings, List.replicate_succ']

/-! ## What a URL is split into -/

theorem of_parse {url reference : String} {r : Repository} (h : parse url reference = .ok r) :
    ∃ host names last, Remote.host? url = some host ∧ Remote.segments url = names ++ [last] ∧
      reference ≠ "" ∧ r = ⟨url, host, "/".intercalate names,
        String.ofList (dropGitEndings last.toList), reference⟩ := by
  unfold parse at h
  split at h
  · cases h
  · next host hhost =>
    simp only at h
    split at h
    · cases h
    · next last hlast =>
      split at h
      · cases h
      · next hreference =>
        cases h
        have hsegments := List.dropLast_append_getLast? last hlast
        exact ⟨host, (Remote.segments url).dropLast, last, hhost, hsegments.symm, hreference, rfl⟩

/-- The parts of a repository are those of its URL: the host in lower case, every segment of the
path but the last, and the last one without its endings. The path can be told from them, up to one
ending, exactly when the last segment is not an ending alone and does not end in two. -/
theorem parts_of_parse {url reference : String} {r : Repository} (h : parse url reference = .ok r) :
    r.url = url ∧ r.reference = reference ∧ r.reference ≠ "" ∧
      Remote.host? url = some r.host ∧ r.host ≠ "" ∧
      String.ofList (r.host.toList.map Char.toLower) = r.host ∧
      ∃ names last n, Remote.segments url = names ++ [last] ∧
        r.namespacePath = "/".intercalate names ∧ last = r.name ++ endings n ∧
        ¬ ".git".toList <:+ r.name.toList ∧
        "/".intercalate (Remote.segments url) = r.lead ++ (r.name ++ endings n) ∧
        (r.Keeps (Remote.segments url) ↔ last ≠ ".git" ∧ ¬ ".git.git".toList <:+ last.toList) := by
  obtain ⟨host, names, last, hhost, hsegments, hreference, rfl⟩ := of_parse h
  obtain ⟨hne, hlowered⟩ := Remote.host?_lowered hhost
  obtain ⟨n, hlast, hbare⟩ := dropGitEndings_spec last
  generalize String.ofList (dropGitEndings last.toList) = name at h hlast hbare ⊢
  have hmem : ∀ segment ∈ names ++ [last], segment ≠ "" := by
    intro segment hsegment
    rw [← hsegments] at hsegment
    exact Remote.ne_of_mem_segments hsegment
  have hnames : ∀ segment ∈ names, segment ≠ "" := fun s hs => hmem s (List.mem_append_left _ hs)
  have hne_last : last ≠ "" := hmem last (List.mem_append_right _ List.mem_cons_self)
  have hpath : "/".intercalate (Remote.segments url) =
      lead ⟨url, host, "/".intercalate names, name, reference⟩ ++ (name ++ endings n) := by
    rw [hsegments, ← hlast]
    exact intercalate_concat hnames last
  refine ⟨rfl, rfl, hreference, hhost, hne, hlowered, names, last, n, hsegments, rfl, hlast,
    hbare, hpath, ?_⟩
  calc Keeps _ (Remote.segments url) ↔ name ≠ "" ∧ n ≤ 1 := keeps_iff hpath
    _ ↔ last ≠ ".git" ∧ ¬ ".git.git".toList <:+ last.toList :=
      bare_and_single_iff hlast hne_last hbare

/-! A repository in nested groups, and one whose name ends in two endings. -/

section Cases

theorem segments_nested :
    Remote.segments "ssh://git@GitLab.com/group//sub/Repo.git?a#b" =
      ["group", "sub", "Repo.git"] := by
  decide +kernel

theorem parts_of_parse_nested :
    parse "ssh://git@GitLab.com/group//sub/Repo.git?a#b" "v1" =
        .ok ⟨"ssh://git@GitLab.com/group//sub/Repo.git?a#b", "gitlab.com",
          "group/sub", "Repo", "v1"⟩ ∧
      Keeps
        ⟨"ssh://git@GitLab.com/group//sub/Repo.git?a#b", "gitlab.com", "group/sub", "Repo", "v1"⟩
        (Remote.segments "ssh://git@GitLab.com/group//sub/Repo.git?a#b") := by
  have hparse : parse "ssh://git@GitLab.com/group//sub/Repo.git?a#b" "v1" =
      .ok ⟨"ssh://git@GitLab.com/group//sub/Repo.git?a#b", "gitlab.com", "group/sub", "Repo",
        "v1"⟩ := by decide +kernel
  refine ⟨hparse, ?_⟩
  obtain ⟨-, -, -, -, -, -, names, last, n, hsegments, -, -, -, -, hkeeps⟩ := parts_of_parse hparse
  rw [segments_nested] at hsegments
  have hlast : last = "Repo.git" := by
    have hends := congrArg List.getLast? hsegments
    simpa using hends.symm
  subst hlast
  exact hkeeps.2 (by decide)

/-- A repository whose name ends in two endings loses both, and has the archive of another
repository; one that is named by an ending alone has no name. -/
theorem repeated_ending_lost :
    (∃ r r', parse "ssh://h/o/x.git.git" "r" = .ok r ∧
      ¬ r.Keeps (Remote.segments "ssh://h/o/x.git.git") ∧
      parse "ssh://h/o/x.git" "r" = .ok r' ∧ Pip.repositoryArchive r = Pip.repositoryArchive r') ∧
    ∃ r, parse "ssh://h/o/.git" "r" = .ok r ∧ r.name = "" := by
  have htwo : parse "ssh://h/o/x.git.git" "r" =
      .ok ⟨"ssh://h/o/x.git.git", "h", "o", "x", "r"⟩ := by decide +kernel
  have hone : parse "ssh://h/o/x.git" "r" = .ok ⟨"ssh://h/o/x.git", "h", "o", "x", "r"⟩ := by
    decide +kernel
  have hlone : parse "ssh://h/o/.git" "r" = .ok ⟨"ssh://h/o/.git", "h", "o", "", "r"⟩ := by
    decide +kernel
  refine ⟨⟨_, _, htwo, ?_, hone, rfl⟩, _, hlone, rfl⟩
  have hsegments : Remote.segments "ssh://h/o/x.git.git" = ["o", "x.git.git"] := by decide +kernel
  rw [hsegments]
  rintro ⟨-, hpath⟩
  revert hpath
  decide

end Cases

end Repository
end FetchPlan
