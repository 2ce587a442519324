import FetchPlan.Proofs.RequirementText

/-!
What is read from the lines of a requirements file that is accepted. The options of a requirement
begin at the first hyphen after a space; its hashes are the values of the words from there on
(`hashes_of_choices`), and all that it pins, with its marker, stands before (`of_parts`). Where
each blank before the options is a space, no word before them begins with a hyphen
(`head?_of_mem_words`), so the hashes are those of the whole line and a version is one word. After
a blank of another kind a hash is no option, and ends up in the version (`tab_takes_hash`). What
holds of each line, and for which of them nothing is taken, is `requirements_accepted`.

What is proved: of each line of an accepted file, that name, extras, pin and marker stand on it
and the hashes are values of its options (`StandsOn`); that the hashes are those of the whole line
exactly when no hash stands before the options; and that nothing is lost where blanks before the
options are spaces (`NothingTaken`). The last condition is needed: `tab_takes_hash` is a line with
a tab whose hash is not recorded.
-/
namespace FetchPlan

def Pin.texts : Pin → List String
  | .version v => [v]
  | .repository u reference => [u, reference]
  | .url u => [u]

/-- The texts that a requirement is read from, its name, extras and hashes apart. -/
def Requirement.texts (r : Requirement) : List String := r.pin.texts ++ r.marker.toList

namespace Requirements

open Text

/-! ## Options -/

/-- The words before the options of a line, and those from the options on, are all its words. -/
theorem words_splitOptions (s : List Char) :
    words s = words (splitOptions s).1 ++ words (splitOptions s).2 := by
  unfold splitOptions
  cases hs : cutAt [' ', '-'] s with
  | none => simp [words, fields]
  | some p =>
    obtain ⟨spec, options⟩ := p
    have hwhole : s = spec ++ ' ' :: ('-' :: options) := by simpa using cutAt_eq_some hs
    simp only [words_trim]
    conv_lhs => rw [hwhole, words_append_blank (by rfl)]

theorem unfollowed_splitOptions (s : List Char) : Unfollowed (· == ' ') '-' (splitOptions s).1 := by
  unfold splitOptions
  cases hs : cutAt [' ', '-'] s with
  | none => exact cutAt_pair_eq_none.1 hs
  | some p => exact List.IsChain.infix (unfollowed_of_cutAt hs) (trim_isInfix p.1)

/-- What stands before the options begins a line that begins with no blank. -/
theorem splitOptions_isPrefix {s : List Char} (hs : ∀ c ∈ s.head?, isBlank c = false) :
    (splitOptions s).1 <+: s := by
  unfold splitOptions
  cases hcut : cutAt [' ', '-'] s with
  | none => exact List.prefix_rfl
  | some p =>
    have hlead := cutAt_isPrefix hcut
    exact (trim_isPrefix fun c hc => hs c (mem_head?_of_isPrefix hlead hc)).trans hlead

/-- Whether each blank before the options of a line is a space. -/
def IsSpaced (s : List Char) : Prop := ∀ c ∈ (splitOptions s).1, isBlank c = true → c = ' '

/-- Where each blank before the options is a space, no word before them begins with a hyphen. -/
theorem head?_of_mem_words {s w : List Char} (hs : HoldsRequirement s)
    (hstart : ∀ c ∈ s.head?, isBlank c = false) (hspaced : IsSpaced s)
    (hw : w ∈ words (splitOptions s).1) : w.head? ≠ some '-' := by
  intro hhead
  obtain ⟨w, rfl⟩ := List.head?_eq_some_iff.1 hhead
  rcases prefix_or_after_blank hw with hlead | ⟨c, hc, hpart⟩
  · exact hs.2 (mem_head?_of_isPrefix (hlead.trans (splitOptions_isPrefix hstart)) rfl)
  · have hspace : c = ' ' := hspaced c (hpart.subset List.mem_cons_self) hc
    have hpair := List.IsChain.infix (unfollowed_splitOptions s) hpart
    exact (List.isChain_cons_cons.1 hpair).1 (by simp [hspace]) rfl

/-! ## Hashes -/

/-- The value of a word that gives a hash. -/
def hashToken? (w : List Char) : Option String := (after? "--hash=" w).map String.ofList

def hashTokens (ws : List (List Char)) : List String := ws.filterMap hashToken?

/-- The values of the words that give a hash, in one word or in two. -/
def hashValues : List (List Char) → List String
  | [] => []
  | [w] => (hashToken? w).toList
  | w :: v :: ws =>
    if w = "--hash".toList then String.ofList v :: hashValues ws
      else (hashToken? w).toList ++ hashValues (v :: ws)

theorem hashValues_cons {w : List Char} (hw : w ≠ "--hash".toList) : ∀ ws : List (List Char),
    hashValues (w :: ws) = (hashToken? w).toList ++ hashValues ws
  | [] => by rw [hashValues, hashValues, List.append_nil]
  | v :: ws => by rw [hashValues, if_neg hw]

theorem hashTokens_cons (w : List Char) (ws : List (List Char)) :
    hashTokens (w :: ws) = (hashToken? w).toList ++ hashTokens ws := by
  rw [hashTokens, List.filterMap_cons]
  cases hashToken? w <;> rfl

theorem hashTokens_append (ws vs : List (List Char)) :
    hashTokens (ws ++ vs) = hashTokens ws ++ hashTokens vs :=
  List.filterMap_append

/-- Where no hash is given in two words, those given in one are all. -/
theorem hashValues_eq_hashTokens :
    ∀ {ws : List (List Char)}, "--hash".toList ∉ ws → hashValues ws = hashTokens ws
  | [], _ => rfl
  | w :: ws, h => by
    obtain ⟨hw, hws⟩ := List.ne_and_not_mem_of_not_mem_cons h
    rw [hashValues_cons (Ne.symm hw), hashTokens_cons, hashValues_eq_hashTokens hws]

theorem hashToken?_of_head? {w : List Char} (hw : w.head? ≠ some '-') : hashToken? w = none := by
  cases h : after? "--hash=" w with
  | none => rw [hashToken?, h, Option.map_none]
  | some v =>
    rw [eq_of_isPrefixOf? h] at hw
    exact absurd rfl hw

theorem hashValues_append {ws : List (List Char)} (vs : List (List Char))
    (h : ∀ w ∈ ws, w.head? ≠ some '-') : hashValues (ws ++ vs) = hashValues vs := by
  induction ws with
  | nil => rfl
  | cons w ws ih =>
    obtain ⟨hw, hws⟩ := List.forall_mem_cons.1 h
    have hne : w ≠ "--hash".toList := fun he => hw (by rw [he]; rfl)
    rw [List.cons_append, hashValues_cons hne, hashToken?_of_head? hw, ih hws]
    rfl

theorem of_hashOrFlaw {option : List Char} {value : Option (List Char)} {h : String}
    (hc : hashOrFlaw (option, value) = .ok h) :
    option = "--hash".toList ∧ value = some h.toList := by
  unfold hashOrFlaw hash? at hc
  cases value with
  | none => cases hc
  | some v =>
    by_cases hv : option = "--hash".toList ∧ v.contains ':' = true
    · simp only [if_pos hv] at hc
      obtain rfl := Except.ok.inj hc
      exact ⟨hv.1, congrArg some String.toList_ofList.symm⟩
    · simp only [if_neg hv] at hc
      cases hc

theorem hashToken?_of_cut {w value : List Char}
    (hcut : Text.cut (· == '=') w = some ("--hash".toList, value)) :
    w ≠ "--hash".toList ∧ hashToken? w = some (String.ofList value) := by
  obtain ⟨-, hw⟩ := cut_beq_eq_some.1 hcut
  have hafter : after? "--hash=" w = some value := by
    rw [hw]
    exact after?_append "--hash=" value
  refine ⟨fun he => ?_, by rw [hashToken?, hafter, Option.map_some]⟩
  rw [he] at hafter
  cases hafter

theorem hashes_of_cut {w option value : List Char} {ws : List (List Char)} {hs : List String}
    (hcut : Text.cut (· == '=') w = some (option, value))
    (h : (choices (w :: ws)).mapM hashOrFlaw = .ok hs)
    (hrest : ∀ {gs}, (choices ws).mapM hashOrFlaw = .ok gs → gs = hashValues ws) :
    hs = hashValues (w :: ws) := by
  rw [choices_cons hcut] at h
  obtain ⟨g, gs, hg, hgs, rfl⟩ := mapM_cons_ok h
  obtain ⟨rfl, hvalue⟩ := of_hashOrFlaw hg
  obtain ⟨hne, htoken⟩ := hashToken?_of_cut hcut
  rw [hashValues_cons hne, htoken, hrest hgs, Option.some.inj hvalue, String.ofList_toList]
  rfl

theorem hashes_of_choices {ws : List (List Char)} {hs : List String}
    (h : (choices ws).mapM hashOrFlaw = .ok hs) : hs = hashValues ws := by
  induction ws using choices.induct generalizing hs with
  | case1 => exact (Except.ok.inj h).symm
  | case2 w option value hcut => exact hashes_of_cut hcut h fun h => (Except.ok.inj h).symm
  | case3 w hcut =>
    simp only [choices, hcut] at h
    obtain ⟨g, gs, hg, -, -⟩ := mapM_cons_ok h
    cases (of_hashOrFlaw hg).2
  | case4 w v r option value hcut ih => exact hashes_of_cut hcut h ih
  | case5 w v r hcut htakes ih =>
    simp only [choices, hcut, if_pos htakes] at h
    obtain ⟨g, gs, hg, hgs, rfl⟩ := mapM_cons_ok h
    obtain ⟨rfl, hvalue⟩ := of_hashOrFlaw hg
    rw [hashValues, if_pos rfl, ih hgs, Option.some.inj hvalue, String.ofList_toList]
  | case6 w v r hcut htakes ih =>
    simp only [choices, hcut, if_neg htakes] at h
    obtain ⟨g, gs, hg, -, -⟩ := mapM_cons_ok h
    cases (of_hashOrFlaw hg).2

/-! ## What is pinned -/

theorem splitMarker_isInfix (separator s : List Char) : (splitMarker separator s).1 <:+: s ∧
    ∀ m ∈ (splitMarker separator s).2, m.toList <:+: s := by
  unfold splitMarker
  cases hcut : cutAt separator s with
  | none => exact ⟨trim_isInfix s, by simp⟩
  | some p =>
    have hmarker : trim (p.2.dropWhile (· == ';')) <:+: s :=
      (trim_isInfix _).trans ((List.dropWhile_suffix _).isInfix.trans (cutAt_isSuffix hcut).isInfix)
    refine ⟨(trim_isInfix _).trans (cutAt_isPrefix hcut).isInfix, fun m hm => ?_⟩
    simp only at hm
    split at hm
    · cases hm
    · obtain rfl := Option.some.inj hm
      rwa [String.toList_ofList]

/-- Whether a version is one version: not empty, and without a sign of a range. -/
structure IsSingle (v : List Char) : Prop where
  notEmpty : v ≠ []
  start : v.head? ≠ some '='
  noSign : ∀ c ∈ v, c ∉ [',', '*', '<', '>', '!', '~']

theorem of_versionSpec {spec head : List Char} {pin : Pin} {marker : Option String}
    (h : versionSpec spec = .ok (head, pin, marker)) :
    (∀ t ∈ pin.texts ++ marker.toList, t.toList <:+: spec) ∧
      ∀ v, pin = .version v → IsSingle v.toList ∧ ' ' ∉ v.toList := by
  obtain ⟨hrequirement, hmarker⟩ := splitMarker_isInfix [';'] spec
  unfold versionSpec at h
  generalize splitMarker [';'] spec = p at h hrequirement hmarker
  simp only at h
  split at h
  · cases h
  · next version hcut =>
    split at h
    · cases h
    · next hsingle =>
      cases h
      obtain ⟨hne, hstart, hloose⟩ : trim version ≠ [] ∧ (trim version).head? ≠ some '=' ∧
        ∀ c ∈ trim version, isLoose c = false := by simpa using hsingle
      have hversion : trim version <:+: spec :=
        (trim_isInfix version).trans ((cutAt_isSuffix hcut).isInfix.trans hrequirement)
      constructor
      · intro t ht
        rcases List.mem_append.1 ht with ht | ht
        · obtain rfl := List.mem_singleton.1 ht
          rwa [String.toList_ofList]
        · exact hmarker t (Option.mem_toList.1 ht)
      · rintro v ⟨⟩
        rw [String.toList_ofList]
        refine ⟨⟨hne, hstart, fun c hc hsign => ?_⟩, fun hspace => ?_⟩
        · have hnot := hloose c hc
          simp only [isLoose, Bool.or_eq_false_iff, beq_eq_false_iff_ne] at hnot
          simp_all
        · exact absurd (hloose ' ' hspace) (by decide)

theorem cutLast_eq_some {p : Char → Bool} {s a b : List Char} (h : cutLast p s = some (a, b)) :
    ∃ c, p c = true ∧ (∀ x ∈ b, p x = false) ∧ s = a ++ c :: b := by
  obtain ⟨⟨after, before⟩, hcut, heq⟩ := Option.map_eq_some_iff.1 h
  obtain ⟨rfl, rfl⟩ : before.reverse = a ∧ after.reverse = b := by simpa using heq
  obtain ⟨c, hc, hafter, hs⟩ := cut_eq_some hcut
  exact ⟨c, hc, by simpa using hafter, by rw [← List.reverse_reverse s, hs]; simp⟩

/-- A repository and its reference, with an at sign between them, are what they are read from
without its fragment; there is a reference, and no at sign stands in it. -/
theorem of_repositoryPin? {s : List Char} {pin : Pin} (h : repositoryPin? s = some pin) :
    ∃ u reference : String, pin = .repository u reference ∧
      u.toList ++ '@' :: reference.toList = s.takeWhile (· != '#') ∧ reference.toList ≠ [] ∧
      '@' ∉ reference.toList := by
  unfold repositoryPin? at h
  simp only [Option.bind_eq_bind, Option.bind_eq_some_iff] at h
  obtain ⟨⟨scheme, remainder⟩, hscheme, ⟨authority, rest⟩, hauthority, ⟨path, reference⟩,
    hreference, h⟩ := h
  have hplain : scheme ++ "://".toList ++ remainder = s.takeWhile (· != '#') := by
    rw [← cutAt_eq_some hscheme]
    split
    · next head tail hcut => exact (takeWhile_of_cut hcut).symm
    · next hcut => exact (takeWhile_of_cut_none hcut).symm
  obtain ⟨-, hremainder⟩ := cut_beq_eq_some.1 hauthority
  obtain ⟨d, hd, hfree, hpath⟩ := cutLast_eq_some hreference
  obtain rfl : d = '@' := by simpa using hd
  simp only at h hremainder hpath hfree
  rw [hremainder, hpath] at hplain
  split at h
  · cases h
  · next hlong =>
    cases h
    refine ⟨_, _, rfl, ?_, ?_, ?_⟩
    · rw [← hplain]
      simp
    · rw [String.toList_ofList]
      exact fun hempty => hlong (.inl hempty)
    · rw [String.toList_ofList]
      exact fun hmem => absurd (hfree '@' hmem) (by decide)

theorem isInfix_of_urlPin? {s : List Char} {pin : Pin} (h : urlPin? s = some pin) :
    (∀ t ∈ pin.texts, t.toList <:+: s) ∧ ∀ v, pin ≠ .version v := by
  unfold urlPin? at h
  split at h
  · next rest hgit =>
    obtain ⟨u, reference, rfl, hlead, -, -⟩ := of_repositoryPin? h
    have hrest : rest <:+: s := ⟨"git+".toList, [], by rw [List.append_nil, eq_of_isPrefixOf? hgit]⟩
    have hwhole : u.toList ++ '@' :: reference.toList <:+: s := by
      rw [hlead]
      exact (List.takeWhile_prefix _).isInfix.trans hrest
    refine ⟨fun t ht => ?_, by simp⟩
    obtain rfl | rfl : t = u ∨ t = reference := by simpa [Pin.texts] using ht
    · exact (List.prefix_append _ _).isInfix.trans hwhole
    · exact ((List.suffix_cons _ _).trans (List.suffix_append _ _)).isInfix.trans hwhole
  · split at h
    · cases h
      refine ⟨fun t ht => ?_, by simp⟩
      obtain rfl := List.mem_singleton.1 ht
      exact ⟨[], [], by simp⟩
    · cases h

theorem of_urlSpec {head rest : List Char} {r : List Char × Pin × Option String}
    (h : urlSpec head rest = .ok r) :
    (∀ t ∈ r.2.1.texts ++ r.2.2.toList, t.toList <:+: rest) ∧ ∀ v, r.2.1 ≠ .version v := by
  obtain ⟨hurl, hmarker⟩ := splitMarker_isInfix [' ', ';'] (trim rest)
  unfold urlSpec at h
  generalize splitMarker [' ', ';'] (trim rest) = p at h hurl hmarker
  simp only at h
  split at h
  · next pin hpin =>
    cases h
    obtain ⟨htexts, hversion⟩ := isInfix_of_urlPin? hpin
    refine ⟨fun t ht => ?_, hversion⟩
    rcases List.mem_append.1 ht with ht | ht
    · exact (htexts t ht).trans (hurl.trans (trim_isInfix rest))
    · exact (hmarker t (Option.mem_toList.1 ht)).trans (trim_isInfix rest)
  · cases h

theorem of_parts {spec : List Char} {r : List Char × Pin × Option String} (h : parts spec = .ok r) :
    (∀ t ∈ r.2.1.texts ++ r.2.2.toList, t.toList <:+: spec) ∧
      ∀ v, r.2.1 = .version v → IsSingle v.toList ∧ ' ' ∉ v.toList := by
  unfold parts at h
  split at h
  · next rest hat =>
    have hrest : rest <:+ spec := by
      rcases Option.or_eq_some_iff.1 hat with hat | ⟨-, hat⟩
      · exact cutAt_isSuffix hat
      · obtain ⟨c, -, -, hs⟩ := cut_eq_some hat
        exact ⟨_ ++ [c], by rw [hs, List.append_assoc]; rfl⟩
    obtain ⟨htexts, hversion⟩ := of_urlSpec h
    exact ⟨fun t ht => (htexts t ht).trans hrest.isInfix, fun v hv => absurd hv (hversion v)⟩
  · exact of_versionSpec h

/-! ## Accepted lines -/

/-- What a requirement has from the line it stands on, whichever blanks that has. -/
structure StandsOn (s : List Char) (r : Requirement) : Prop where
  /-- A version is one version, and holds no space. -/
  version : ∀ v, r.pin = .version v → IsSingle v.toList ∧ ' ' ∉ v.toList
  /-- What is pinned and the marker stand before the options. -/
  texts : ∀ t ∈ r.texts, t.toList <:+: (splitOptions s).1
  /-- The hashes are those of the options, in order. -/
  hashes : r.hashes = hashValues (words (splitOptions s).2)

/-- Whether nothing of the options of a line was taken for something else. -/
structure NothingTaken (s : List Char) (r : Requirement) : Prop where
  /-- A version is one word. -/
  version : ∀ v, r.pin = .version v → Unbroken v.toList
  /-- No option stands among the words that are pinned and the marker is read from. -/
  noOption : ∀ w ∈ words (splitOptions s).1, w.head? ≠ some '-'
  /-- The hashes are those of the whole line, in order. -/
  hashes : r.hashes = hashValues (words s)

theorem standsOn_of_requirement {s : List Char} {r : Requirement} (h : requirement s = .ok r) :
    StandsOn s r := by
  rw [requirement_eq] at h
  obtain ⟨hashes, hhashes, h⟩ := ok_of_bind h
  obtain ⟨p, hp, h⟩ := ok_of_bind h
  obtain ⟨htexts, hversion⟩ := of_parts hp
  split at h
  · obtain rfl := Except.ok.inj h
    exact ⟨hversion, htexts, hashes_of_choices hhashes⟩
  · cases h

namespace StandsOn

variable {s : List Char} {r : Requirement} (h : StandsOn s r)
include h

/-- Where no hash is given in two words, the hashes are those of the whole line exactly when none
stands before the options. -/
theorem hashes_eq_hashTokens_iff (htwo : "--hash".toList ∉ words s) :
    r.hashes = hashTokens (words s) ↔ hashTokens (words (splitOptions s).1) = [] := by
  rw [words_splitOptions] at htwo
  rw [h.hashes, hashValues_eq_hashTokens fun hmem => htwo (List.mem_append_right _ hmem),
    words_splitOptions s, hashTokens_append, List.self_eq_append_left]

theorem nothingTaken (hs : HoldsRequirement s) (hstart : ∀ c ∈ s.head?, isBlank c = false)
    (hspaced : IsSpaced s) :
    NothingTaken s r where
  version v hv c hc := by
    obtain ⟨-, hspace⟩ := h.version v hv
    have hmem : c ∈ (splitOptions s).1 := by
      refine (h.texts v (List.mem_append_left _ ?_)).subset hc
      rw [hv]
      exact List.mem_singleton_self v
    cases hblank : isBlank c with
    | false => rfl
    | true => exact absurd (hspaced c hmem hblank ▸ hc) hspace
  noOption w hw := head?_of_mem_words hs hstart hspaced hw
  hashes := by
    rw [h.hashes, words_splitOptions s, hashValues_append]
    exact fun w hw => head?_of_mem_words hs hstart hspaced hw

end StandsOn

/-- The requirements of a file that is accepted are those of its lines, one for each. Each version
is one version, without spaces, and what is pinned, the marker and the hashes stand where they
belong in the line. The hashes are all that the line gives exactly when none stands before the
options, that is, before the first hyphen after a space; and where each blank before the options is
a space, nothing of them is taken for something else. -/
theorem requirements_accepted {what text : String} {f : Requirements}
    (h : parse what text = .ok f) :
    List.Forall₂ (fun s r => StandsOn s r ∧
        ("--hash".toList ∉ words s →
          (r.hashes = hashTokens (words s) ↔ hashTokens (words (splitOptions s).1) = [])) ∧
        (IsSpaced s → NothingTaken s r))
      (requirementLines text) f.requirements := by
  have hlines :=
    (List.forall₂_and_left _ _).2 ⟨fun s hs => of_mem_requirementLines hs, requirements_of_parse h⟩
  refine hlines.imp fun s r ⟨⟨hs, hstart⟩, hr⟩ => ?_
  have hstands := standsOn_of_requirement hr
  exact ⟨hstands, hstands.hashes_eq_hashTokens_iff, hstands.nothingTaken hs hstart⟩

/-- A version with hashes in one word and in two, on a line that goes on, and a repository with a
marker. -/
def mixedLines : String :=
  "a==1 \\\n  --hash=x:y --hash x:z # note\n-i u\nb[c] @ git+https://h/p@r ; m\t< n --hash=x:w\n"

def mixedFile : Requirements :=
  ⟨some "u", false, [⟨"a", [], none, ["x:y", "x:z"], .version "1"⟩,
    ⟨"b", ["c"], some "m\t< n", ["x:w"], .repository "https://h/p" "r"⟩]⟩

theorem requirements_accepted_mixedLines : parse "r" mixedLines = .ok mixedFile ∧
    List.Forall₂ (fun s r => StandsOn s r ∧
        ("--hash".toList ∉ words s →
          (r.hashes = hashTokens (words s) ↔ hashTokens (words (splitOptions s).1) = [])) ∧
        (IsSpaced s → NothingTaken s r))
      (requirementLines mixedLines) mixedFile.requirements := by
  have hparse : parse "r" mixedLines = .ok mixedFile := by rfl
  exact ⟨hparse, requirements_accepted hparse⟩

/-- After a tab a hash is no option: it becomes the end of the version, and is not recorded. -/
theorem tab_takes_hash :
    parse "requirements.txt" "a==1\t--hash=sha256:aa\n" =
        .ok ⟨none, false, [⟨"a", [], none, [], .version "1\t--hash=sha256:aa"⟩]⟩ ∧
      requirementLines "a==1\t--hash=sha256:aa\n" = ["a==1\t--hash=sha256:aa".toList] ∧
      hashTokens (words "a==1\t--hash=sha256:aa".toList) = ["sha256:aa"] ∧
      ¬ Unbroken "1\t--hash=sha256:aa".toList :=
  ⟨by rfl, by rfl, by rfl, by decide⟩

end Requirements
end FetchPlan
