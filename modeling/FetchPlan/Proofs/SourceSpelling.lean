import FetchPlan.Proofs.LockedSources

/-!
Texts of sources, one by one. A source of git is written in one way, and the index of a sparse
registry in two (`Spells`); every other text lacks one thing that it needs (`Lacks`). A text is
read as a source exactly when it spells that source, and a text that spells none is refused, with
what it lacks as the reason (`sources_spelled_exactly`).

What is proved of every string: it is read as a source exactly when it spells that source, and
refused with a reason exactly when it spells none. Nothing is assumed.
-/
namespace FetchPlan.CrateSource

/-! ## What a text spells -/

/-- The text of a source that is not the source tree. The index of a sparse registry has its lead
already. -/
def toText? : CrateSource → Option String
  | .here => none
  | .registry index =>
    if (Text.after? "sparse+" index.toList).isSome then some index else some ("registry+" ++ index)
  | .git url query commit =>
    some ("git+" ++ url ++ (match query with
      | some q => "?" ++ q
      | none => "") ++ "#" ++ commit)

/-- Whether the parts of a source of git end where its text says: the URL at the first question
mark or number sign, and the query at the first number sign. A commit may hold either. -/
structure Divides (url : String) (query : Option String) (commit : String) : Prop where
  url_ne : url ≠ ""
  no_mark : '?' ∉ url.toList
  no_hash : '#' ∉ url.toList
  query_no_hash : ∀ q ∈ query, '#' ∉ q.toList
  commit_ne : commit ≠ ""

/-- Which texts a source is written as. The index of a sparse registry is a text of its own, and
may also stand after the lead of any other. -/
def Spells (s : String) : CrateSource → Prop
  | .here => False
  | .registry index =>
    (index ≠ "" ∧ s = "registry+" ++ index) ∨
      (s = index ∧ ∃ rest, rest ≠ "" ∧ index = "sparse+" ++ rest)
  | .git url query commit => Divides url query commit ∧ toText? (.git url query commit) = some s

theorem toText?_git (url : String) (query : Option String) (commit : String) : ∃ s,
    toText? (.git url query commit) = some s ∧ s.toList =
      "git+".toList ++
        (url.toList ++ queryText (query.map String.toList) ++ '#' :: commit.toList) := by
  refine ⟨_, rfl, ?_⟩
  cases query <;> simp [queryText]

theorem not_mem_queryText {x : Char} (hx : x ≠ '?') {query : Option String} :
    x ∉ queryText (query.map String.toList) ↔ ∀ q ∈ query, x ∉ q.toList := by
  cases query <;> simp [queryText, hx]

theorem divides_iff {url : String} {query : Option String} {commit : String} :
    Divides url query commit ↔
    url.toList ≠ [] ∧ '?' ∉ url.toList ∧ '#' ∉ url.toList ++ queryText (query.map String.toList) ∧
      commit.toList ≠ [] := by
  rw [List.mem_append, not_or, not_mem_queryText (by decide)]
  simp only [ne_eq, String.toList_eq_nil_iff]
  exact ⟨fun ⟨hurl, hmark, hhash, hquery, hcommit⟩ => ⟨hurl, hmark, ⟨hhash, hquery⟩, hcommit⟩,
    fun ⟨hurl, hmark, ⟨hhash, hquery⟩, hcommit⟩ => ⟨hurl, hmark, hhash, hquery, hcommit⟩⟩

theorem says_iff_spells {s : String} {source : CrateSource} :
    Says s.toList source ↔ Spells s source := by
  constructor
  · intro h
    generalize htext : s.toList = text at h
    cases h with
    | @registry index hne =>
      refine .inl ⟨by simpa using hne, ?_⟩
      rw [← String.toList_inj, htext, String.toList_append, String.toList_ofList (l := index)]
    | @sparse index hne =>
      refine .inr ⟨?_, String.ofList index, by simpa using hne, ?_⟩
      · rw [← htext, String.ofList_toList]
      · rw [String.ofList_append, String.ofList_toList]
    | @git url commit query hurl hmark hplain hcommit =>
      obtain ⟨t, ht, htoList⟩ :=
        toText?_git (String.ofList url) (query.map String.ofList) (String.ofList commit)
      have hquery : (query.map String.ofList).map String.toList = query := by
        simp [Function.comp_def]
      rw [hquery, String.toList_ofList (l := url), String.toList_ofList (l := commit), ← htext,
        String.toList_inj] at htoList
      refine ⟨divides_iff.2 ?_, by rw [ht, htoList]⟩
      rw [hquery, String.toList_ofList, String.toList_ofList]
      exact ⟨hurl, hmark, hplain, hcommit⟩
  · intro h
    cases source with
    | here => cases h
    | registry index =>
      rcases h with ⟨hne, rfl⟩ | ⟨rfl, rest, hne, rfl⟩
      · have hsaid := @Says.registry index.toList (by simpa using hne)
        rwa [String.ofList_toList, ← String.toList_append] at hsaid
      · have hsaid := @Says.sparse rest.toList (by simpa using hne)
        rwa [← String.toList_append, String.ofList_toList] at hsaid
    | git url query commit =>
      obtain ⟨hdivides, htext⟩ := h
      obtain ⟨hurl, hmark, hplain, hcommit⟩ := divides_iff.1 hdivides
      obtain ⟨t, ht, htoList⟩ := toText?_git url query commit
      obtain rfl := Option.some.inj (htext.symm.trans ht)
      have hquery : (query.map String.toList).map String.ofList = query := by
        simp [Function.comp_def]
      have hsaid := Says.git hurl hmark hplain hcommit
      rwa [← htoList, String.ofList_toList, hquery, String.ofList_toList] at hsaid

/-! ## What a text lacks -/

def leads : List String := ["registry+", "sparse+", "git+"]

/-- Why a text is no source. Of a source of git the commit is looked for before the URL. -/
inductive Lacks : List Char → String → Prop where
  | index : Lacks "registry+".toList "registry source without index URL"
  | sparseIndex : Lacks "sparse+".toList "sparse source without index URL"
  | hash {rest : List Char} (h : '#' ∉ rest) :
    Lacks ("git+".toList ++ rest) "git source without resolved commit"
  | commit {locator : List Char} (h : '#' ∉ locator) :
    Lacks ("git+".toList ++ (locator ++ ['#'])) "git source without resolved commit"
  | url {query : Option (List Char)} {commit : List Char} (h : '#' ∉ queryText query)
    (hcommit : commit ≠ []) :
    Lacks ("git+".toList ++ (queryText query ++ '#' :: commit)) "git source without repository URL"
  | lead {s : List Char} (h : ∀ lead ∈ leads, ¬ lead.toList <+: s) :
    Lacks s "unrecognized source kind"

theorem lacks_of_gitOfText {v : String} {rest : List Char} {e : Error}
    (h : gitOfText v rest = .error e) :
    ∃ reason, Lacks ("git+".toList ++ rest) reason ∧ e = .unexpectedFormat v reason := by
  cases hcut : Text.cut (· == '#') rest with
  | none =>
    rw [gitOfText, hcut] at h
    cases h
    exact ⟨_, .hash (Text.cut_beq_eq_none.1 hcut), rfl⟩
  | some p =>
    obtain ⟨locator, commit⟩ := p
    obtain ⟨hplain, rfl⟩ := Text.cut_beq_eq_some.1 hcut
    obtain ⟨url, query, rfl, hmark⟩ := exists_query locator
    rw [gitOfText_append v hmark hplain] at h
    split at h
    · next hcommit =>
      cases h
      subst hcommit
      exact ⟨_, .commit hplain, rfl⟩
    · next hcommit =>
      split at h
      · next hurl =>
        cases h
        subst hurl
        exact ⟨_, .url hplain hcommit, rfl⟩
      · cases h

theorem after?_eq_none {lead : String} {s : List Char} :
    Text.after? lead s = none ↔ ¬ lead.toList <+: s := by
  constructor
  · rintro h ⟨r, rfl⟩
    rw [Text.after?_append] at h
    cases h
  · intro h
    cases hs : Text.after? lead s with
    | none => rfl
    | some r => exact absurd ⟨r, (Text.eq_of_isPrefixOf? hs).symm⟩ h

theorem after?_leads {s : List Char} : (∀ lead ∈ leads, ¬ lead.toList <+: s) ↔
    Text.after? "registry+" s = none ∧ Text.after? "sparse+" s = none ∧
    Text.after? "git+" s = none := by
  rw [after?_eq_none, after?_eq_none, after?_eq_none]
  simp only [leads, List.forall_mem_cons, List.not_mem_nil, false_imp_iff, implies_true, and_true]

theorem lacks_of_ofText {v : String} {e : Error} (h : ofText v = .error e) :
    ∃ reason, Lacks v.toList reason ∧ e = .unexpectedFormat v reason := by
  unfold ofText at h
  split at h
  · next hafter =>
    cases h
    rw [Text.eq_of_isPrefixOf? hafter, List.append_nil]
    exact ⟨_, .index, rfl⟩
  · cases h
  next hregistry =>
  split at h
  · next hafter =>
    cases h
    rw [Text.eq_of_isPrefixOf? hafter, List.append_nil]
    exact ⟨_, .sparseIndex, rfl⟩
  · cases h
  next hsparse =>
  split at h
  · next rest hafter =>
    rw [Text.eq_of_isPrefixOf? hafter]
    exact lacks_of_gitOfText h
  · next hgit =>
    cases h
    exact ⟨_, .lead (after?_leads.2 ⟨hregistry, hsparse, hgit⟩), rfl⟩

theorem ofText_git {v : String} {rest : List Char} (h : v.toList = "git+".toList ++ rest) :
    ofText v = gitOfText v rest := by
  -- no two leads start alike, so the order in which they are tried does not matter
  have hregistry : Text.after? "registry+" ("git+".toList ++ rest) = none := rfl
  have hsparse : Text.after? "sparse+" ("git+".toList ++ rest) = none := rfl
  rw [ofText, h, hregistry, hsparse, Text.after?_append]

theorem ofText_of_lacks {v reason : String} (h : Lacks v.toList reason) :
    ofText v = .error (.unexpectedFormat v reason) := by
  generalize hs : v.toList = s at h
  cases h with
  | index =>
    rw [ofText, hs]
    rfl
  | sparseIndex =>
    rw [ofText, hs]
    rfl
  | hash hplain => rw [ofText_git hs, gitOfText, Text.cut_beq_eq_none.2 hplain]
  | @commit locator hplain =>
    obtain ⟨url, query, rfl, hmark⟩ := exists_query locator
    rw [ofText_git hs, gitOfText_append v hmark hplain, if_pos rfl]
  | @url query commit hplain hcommit =>
    have herror := @gitOfText_append v [] commit query (by simp) hplain
    rw [if_neg hcommit, if_pos rfl] at herror
    rw [ofText_git hs]
    exact herror
  | lead hleads =>
    obtain ⟨hregistry, hsparse, hgit⟩ := after?_leads.1 hleads
    rw [ofText, hs, hregistry, hsparse, hgit]

/-- A text is read as a source exactly when it spells that source, so it is never one of the source
tree; and exactly the texts that spell none are refused, each by name and for what it lacks. -/
theorem sources_spelled_exactly (s : String) :
    (∀ source, ofLocked (some s) = .ok source ↔ Spells s source) ∧
      ((∀ source, ¬ Spells s source) ↔
        ∃ reason, Lacks s.toList reason ∧
          ofLocked (some s) = .error (.unexpectedFormat s reason)) := by
  have hread : ∀ source, ofLocked (some s) = .ok source ↔ Spells s source := fun source =>
    ofText_eq_ok_iff.trans says_iff_spells
  refine ⟨hread, fun hnone => ?_, ?_⟩
  · obtain ⟨e, he⟩ := error_of_not_ok fun source hok => hnone source ((hread source).1 hok)
    obtain ⟨reason, hlacks, -⟩ := lacks_of_ofText he
    exact ⟨reason, hlacks, ofText_of_lacks hlacks⟩
  · rintro ⟨reason, -, herror⟩ source hspells
    have hok := (hread source).2 hspells
    rw [herror] at hok
    cases hok

/-- The first number sign ends the query, and the commit keeps the others. -/
example : ofLocked (some "git+ssh://h/r?a?b#c#d") = .ok (.git "ssh://h/r" (some "a?b") "c#d") := by
  rfl

end FetchPlan.CrateSource
