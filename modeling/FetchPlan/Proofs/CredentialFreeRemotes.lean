import FetchPlan.Proofs.UrlCredentials
import FetchPlan.Provenance

/-!
Remotes without credentials. A remote is recorded as what is left of a text that is read as its
URL, which is the remote itself or what it is rewritten to from its short form; or else it denotes
no URL before and after (`normalize_cases`). Either way only the credentials are gone
(`normalize_only_removes_credentials`).

Assumed is what the URL standard promises of its reader: a URL with credentials is read again as
it is shown. It is asked of the URL at hand alone; the URL without its credentials is then read
again too (`parse?_withoutCredentials`).
-/
namespace FetchPlan.Remote

theorem host_ofRemote (remote commit : String) :
    (Checkout.ofRemote remote commit).host = host? (normalize remote) := by
  simp only [Checkout.ofRemote]

/-- A text that is read as a URL loses its credentials, where the URL with them can be read again.
-/
theorem parse?_stripCredentials {text : String} {u : Url} (h : Url.parse? text = some u)
    (hagain : u.hasCredentials = true → Url.parse? u.render = some u) :
    Url.parse? (stripCredentials text) = some u.withoutCredentials := by
  rw [stripCredentials, h]
  by_cases hc : u.hasCredentials = true
  · simp only [if_pos hc]
    exact Url.parse?_withoutCredentials hc (hagain hc)
  · simp only [hc, Bool.false_eq_true, if_false]
    rw [Url.hasCredentials_eq_false.1 (by simpa using hc), h]

theorem normalize_withoutCredentials {text : String} {u : Url}
    (h : Url.parse? text = some u.withoutCredentials) : normalize text = text := by
  rw [normalize, h]
  simp only
  rw [stripCredentials, h]
  rfl

theorem sshUrl?_of_sshUrl? {remote ssh : String} (h : sshUrl? remote = some ssh) :
    sshUrl? ssh = none := by
  simp only [sshUrl?] at h
  split at h
  · cases h
  · split at h
    · next authority path hcut =>
      split at h
      · cases h
        obtain ⟨a, b, hfound, -⟩ :=
          Text.cutAt_of_append "://".toList (authority ++ '/' :: path) "ssh".toList
        have htext : "ssh://".toList ++ authority ++ '/' :: path =
            "ssh".toList ++ "://".toList ++ (authority ++ '/' :: path) := by
          rw [List.append_assoc]
          rfl
        have hcontains :
            Text.contains "://".toList ("ssh://".toList ++ authority ++ '/' :: path) = true := by
          rw [Text.contains, htext, hfound]
          rfl
        have hwhole : (String.ofList ("ssh://".toList ++ authority ++ '/' :: path)).toList =
            "ssh://".toList ++ authority ++ '/' :: path := String.toList_ofList
        simp only [sshUrl?]
        rw [hwhole, if_pos hcontains]
      · cases h
    · cases h

/-- A remote is recorded as what is left of a text that is read as its URL, or else as a text that
denotes none. -/
theorem normalize_cases (remote : String) :
    (∃ text u, Url.parse? text = some u ∧ url? remote = some u ∧
      normalize remote = stripCredentials text) ∨
      url? remote = none ∧ url? (normalize remote) = none ∧
      normalize (normalize remote) = normalize remote := by
  cases hparse : Url.parse? remote with
  | some u =>
    refine .inl ⟨remote, u, hparse, ?_, ?_⟩
    · rw [url?, hparse]
      rfl
    · rw [normalize, hparse]
  | none =>
    cases hssh : sshUrl? remote with
    | none =>
      have hurl : url? remote = none := by
        rw [url?, hparse, hssh]
        rfl
      have hsame : normalize remote = remote := by
        rw [normalize, hparse, hssh]
      exact .inr ⟨hurl, by rw [hsame, hurl], by rw [hsame, hsame]⟩
    | some ssh =>
      have hurl : url? remote = Url.parse? ssh := by
        rw [url?, hparse, hssh]
        rfl
      have hnormal : normalize remote = stripCredentials ssh := by
        rw [normalize, hparse, hssh]
      cases hread : Url.parse? ssh with
      | some u => exact .inl ⟨ssh, u, hread, by rw [hurl, hread], hnormal⟩
      | none =>
        have hsame : normalize remote = ssh := by rw [hnormal, stripCredentials, hread]
        have hlast := sshUrl?_of_sshUrl? hssh
        refine .inr ⟨by rw [hurl, hread], ?_, ?_⟩
        · rw [hsame, url?, hread, hlast]
          rfl
        · rw [hsame, normalize, hread, hlast]

/-- Recording a remote takes its credentials away and nothing else, where a URL with credentials is
read again as it is shown: what is recorded denotes the same URL without them, with the same host
and segments, and is recorded as it is. -/
theorem normalize_only_removes_credentials (remote : String)
    (h : ∀ u, url? remote = some u → u.hasCredentials = true → Url.parse? u.render = some u) :
    url? (normalize remote) = (url? remote).map Url.withoutCredentials ∧
      (∀ u, url? (normalize remote) = some u → u.username = "" ∧ u.password = "") ∧
      normalize (normalize remote) = normalize remote ∧
      host? (normalize remote) = host? remote ∧
      segments (normalize remote) = segments remote ∧
      ∀ commit, (Checkout.ofRemote remote commit).host = host? remote := by
  have hrecord : url? (normalize remote) = (url? remote).map Url.withoutCredentials ∧
      normalize (normalize remote) = normalize remote := by
    rcases normalize_cases remote with ⟨text, u, hparse, hurl, hnormal⟩ | ⟨hurl, hrecorded, hagain⟩
    · have hread := parse?_stripCredentials hparse (h u hurl)
      rw [hnormal, hurl, normalize_withoutCredentials hread, url?, hread]
      exact ⟨rfl, rfl⟩
    · rw [hrecorded, hurl]
      exact ⟨rfl, hagain⟩
  obtain ⟨hurl, hagain⟩ := hrecord
  have hhost : host? (normalize remote) = host? remote := by
    rw [host?, host?, hurl, Option.map_map]
    rfl
  have hsegments : segments (normalize remote) = segments remote := by
    rw [segments, segments, hurl]
    cases url? remote <;> rfl
  refine ⟨hurl, ?_, hagain, hhost, hsegments, fun commit => ?_⟩
  · intro u hu
    rw [hurl] at hu
    obtain ⟨v, -, rfl⟩ := Option.map_eq_some_iff.1 hu
    exact ⟨rfl, rfl⟩
  · rw [host_ofRemote, hhost]

def shortRemote : String := "git@Example.org:a/./b.git"

def shortUrl : Url := ⟨"ssh", "git", "", "Example.org", none, ["a", "b.git"], none, none⟩

theorem url?_shortRemote : url? shortRemote = some shortUrl := by
  have hparse : Url.parse? shortRemote = none := by decide +kernel
  have hssh : sshUrl? shortRemote = some "ssh://git@Example.org/a/./b.git" := by rfl
  have hread : Url.parse? "ssh://git@Example.org/a/./b.git" = some shortUrl := by decide +kernel
  rw [url?, hparse, hssh]
  exact hread

theorem normalize_only_removes_credentials_shortRemote :
    (∀ u, url? shortRemote = some u → u.hasCredentials = true → Url.parse? u.render = some u) ∧
      url? (normalize shortRemote) = (url? shortRemote).map Url.withoutCredentials ∧
      (∀ u, url? (normalize shortRemote) = some u → u.username = "" ∧ u.password = "") ∧
      normalize (normalize shortRemote) = normalize shortRemote ∧
      host? (normalize shortRemote) = host? shortRemote ∧
      segments (normalize shortRemote) = segments shortRemote ∧
      ∀ commit, (Checkout.ofRemote shortRemote commit).host = host? shortRemote := by
  have hagain : ∀ u, url? shortRemote = some u → u.hasCredentials = true →
      Url.parse? u.render = some u := by
    intro u hu _
    rw [url?_shortRemote] at hu
    obtain rfl := Option.some.inj hu
    decide +kernel
  exact ⟨hagain, normalize_only_removes_credentials shortRemote hagain⟩

end FetchPlan.Remote
