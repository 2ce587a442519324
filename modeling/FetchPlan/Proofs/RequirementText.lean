import FetchPlan.Proofs.RequirementLines
import FetchPlan.Proofs.RequirementParts

/-!
A requirements file that is written out reads back. The options of a requirement begin at the
first hyphen after a space, which no other part holds (`splitOptions_render`), so a line is read
as its requirement (`line_renderRequirement`); lines that do not end in a backslash stay lines
(`logicalLines_flatMap`), and the file is read as they are one by one (`parse_render`).

Assumed of a file is that it is well formed (`Requirements.WellFormed`): each part holds no sign
that would end it and no blank that would be trimmed off. Any mixture of versions, repositories
and downloads, with extras, markers and hashes, is one.
-/
namespace FetchPlan.Requirements

open Text

/-! ## Lines that can be written -/

/-- Whether a text ends with a character that is neither a blank nor a backslash. -/
def EndsPlain (s : List Char) : Prop := ∃ c, s.getLast? = some c ∧ isBlank c = false ∧ c ≠ '\\'

theorem EndsPlain.append {b : List Char} (h : EndsPlain b) (a : List Char) :
    EndsPlain (a ++ b) := by
  obtain ⟨c, hc, hplain⟩ := h
  exact ⟨c, by simp [hc], hplain⟩

theorem endsPlain_of_trimmed {s : List Char} (h : Trimmed s) (hs : s ≠ [])
    (hlast : s.getLast? ≠ some '\\') : EndsPlain s := by
  obtain ⟨c, hc⟩ := Option.ne_none_iff_exists'.1 (mt List.getLast?_eq_none_iff.1 hs)
  exact ⟨c, hc, h.last c hc, fun he => hlast (he ▸ hc)⟩

/-- Whether a text is one line, without blanks at its ends or a comment, that the next line does
not continue. -/
structure IsPlainLine (l : List Char) : Prop where
  oneLine : '\n' ∉ l
  head : ∃ c, l.head? = some c ∧ isBlank c = false ∧ c ≠ '#'
  last : EndsPlain l
  unmarked : Unfollowed isAsciiBlank '#' l

theorem isAsciiBlank_of_not_isBlank {c : Char} (h : isBlank c = false) :
    isAsciiBlank c = false := by
  cases hc : isAsciiBlank c with
  | false => rfl
  | true => rw [isBlank_of_isAsciiBlank hc] at h; cases h

theorem untilComment_of_unfollowed : ∀ {s : List Char} {blank : Bool},
    Unfollowed isAsciiBlank '#' s →
    (blank = true → s.head? ≠ some '#') → untilComment blank s = s
  | [], _, _, _ => rfl
  | c :: s, blank, hs, hblank => by
    have hc : ¬ (c = '#' ∧ blank = true) := fun ⟨hc, hb⟩ => hblank hb (by simp [hc])
    have hnext : isAsciiBlank c = true → s.head? ≠ some '#' := by
      intro hb hh
      obtain ⟨r, rfl⟩ := List.head?_eq_some_iff.1 hh
      exact (List.isChain_cons_cons.1 hs).1 hb rfl
    rw [untilComment, if_neg hc, untilComment_of_unfollowed hs.of_cons hnext]

namespace IsPlainLine

variable {l : List Char} (h : IsPlainLine l)
include h

theorem trimmed : Trimmed l := by
  obtain ⟨c, hc, hb, -⟩ := h.head
  obtain ⟨d, hd, hdb, -⟩ := h.last
  exact ⟨fun x hx => Option.some.inj (hc.symm.trans hx) ▸ hb,
    fun x hx => Option.some.inj (hd.symm.trans hx) ▸ hdb⟩

theorem text : trim (withoutComment l) = l := by
  obtain ⟨c, hc, hb, hmark⟩ := h.head
  have hstart : trimStart l = l := dropWhile_append (a := []) (by simp) h.trimmed.head
  have hcomment : withoutComment l = l := by
    rw [withoutComment, hstart, hc, if_neg fun he => hmark (Option.some.inj he)]
    exact untilComment_of_unfollowed h.unmarked (by simp)
  rw [hcomment, trim_trimmed h.trimmed]

theorem logicalLines_cons (text : List Char) :
    logicalLines (l ++ ['\n'] ++ text) = l :: logicalLines text := by
  obtain ⟨d, hd, hblank, hback⟩ := h.last
  have hreturn : withoutReturn l = l := by
    refine if_neg fun he => ?_
    obtain rfl : d = '\r' := Option.some.inj (hd.symm.trans he)
    cases hblank
  have hwhole : EndsWhole (l ++ ['\n']) := by
    refine .inr ⟨by simp, fun m hm => ?_⟩
    rw [lines_of_oneLine h.oneLine, hreturn] at hm
    obtain rfl : l = m := Option.some.inj hm
    exact fun he => hback (Option.some.inj (hd.symm.trans he))
  have hsingle : logicalLines (l ++ ['\n']) = [l] := by
    have hcontinued : ¬ l.getLast? = some '\\' :=
      fun he => hback (Option.some.inj (hd.symm.trans he))
    rw [logicalLines, lines_of_oneLine h.oneLine, hreturn]
    simp [joinLines, continued?, hcontinued]
  rw [logicalLines_append hwhole, hsingle, List.singleton_append]

theorem line_options (what : String) {settings : List Setting} (hl : l.head? = some '-')
    (hs : (choices (words l)).mapM setting? = some settings) :
    line what l = .ok (.options settings) := by
  obtain ⟨r, rfl⟩ := List.head?_eq_some_iff.1 hl
  rw [line, h.text]
  simp only [hs]

theorem line_requirement (what : String) {r : Requirement} (hl : l.head? ≠ some '-')
    (hr : requirement l = .ok r) : line what l = .ok (.requirement r) := by
  obtain ⟨c, hc, -, -⟩ := h.head
  obtain ⟨s, rfl⟩ := List.head?_eq_some_iff.1 hc
  have hc : c ≠ '-' := by simpa using hl
  rw [line, h.text]
  split
  · next heq => cases heq
  · next heq => exact absurd (List.cons.inj heq).1 hc
  · simp only [hr]

end IsPlainLine

theorem logicalLines_flatMap : ∀ {ls : List (List Char)}, (∀ l ∈ ls, IsPlainLine l) →
    logicalLines (ls.flatMap (· ++ ['\n'])) = ls
  | [], _ => rfl
  | l :: ls, h => by
    obtain ⟨hl, hls⟩ := List.forall_mem_cons.1 h
    rw [List.flatMap_cons, hl.logicalLines_cons, logicalLines_flatMap hls]

/-! ## The line of a requirement -/

/-- Where no character of a kind stands before a hyphen or a number sign in a marker, none does so
in the whole requirement. -/
theorem unfollowed_renderSpec {p : Char → Bool} {y : Char} {r : Requirement} (h : r.WellFormed)
    (hp : ∀ c, isBlank c = false → p c = false) (hy : y = '-' ∨ y = '#')
    (hm : ∀ m ∈ r.marker, Unfollowed p y m.toList ∧ m.toList.head? ≠ some y) :
    Unfollowed p y (renderSpec r) := by
  have hword : ∀ {s : List Char}, Unbroken s → Unfollowed p y s :=
    fun hs => unfollowed_of_none fun c hc => hp c (hs c hc)
  have hhead := unbroken_renderHead h
  have hpin : Unfollowed p y (renderPin r.pin) := by
    rcases version_or_url h.pin with ⟨v, hp, hv⟩ | ⟨url, hp, hurl⟩
    · rw [hp, renderPin_version]
      exact hword (Unbroken.append (by decide) hv.unbroken)
    · rw [hp]
      refine Unfollowed.append (unfollowed_of_not_mem ?_) (hword hurl.unbroken) (.inr ?_)
      · rcases hy with rfl | rfl <;> decide
      · rcases hurl.head with hg | hg <;> rcases hy with rfl | rfl <;> rw [hg] <;> decide
  have hmarker : Unfollowed p y (renderMarker r.marker) ∧
      (renderMarker r.marker).head? ≠ some y := by
    cases hr : r.marker with
    | none => exact ⟨.nil, by simp [renderMarker]⟩
    | some m =>
      obtain ⟨hm, hmhead⟩ := hm m hr
      refine ⟨Unfollowed.append (unfollowed_of_not_mem ?_) hm (.inr hmhead), ?_⟩
      · rcases hy with rfl | rfl <;> decide
      · rcases hy with rfl | rfl <;> rw [renderMarker] <;> simp
  refine Unfollowed.append (Unfollowed.append (hword hhead) hpin (.inl fun c hc => ?_)) hmarker.1
    (.inr hmarker.2)
  exact hp c (hhead c (List.mem_of_getLast? hc))

theorem endsPlain_renderSpec {r : Requirement} (h : r.WellFormed) : EndsPlain (renderSpec r) := by
  have hpin : EndsPlain (renderPin r.pin) := by
    rcases version_or_url h.pin with ⟨v, hp, hv⟩ | ⟨url, hp, hurl⟩
    · have hback : '\\' ∉ v.toList := hv.not_mem (by decide) (by decide)
      rw [hp, renderPin_version]
      exact (endsPlain_of_trimmed hv.unbroken.trimmed hv.1 fun he =>
        hback (List.mem_of_getLast? he)).append _
    · rw [hp]
      exact (endsPlain_of_trimmed hurl.unbroken.trimmed hurl.ne_nil hurl.last).append _
  rw [renderSpec]
  cases hm : r.marker with
  | none => simpa [renderMarker] using hpin.append (renderHead r)
  | some m =>
    have hmark := h.marker m hm
    have hend : EndsPlain m.toList := by
      refine endsPlain_of_trimmed hmark.trimmed hmark.notEmpty fun he => ?_
      exact hmark.plain.2.2.1 (List.mem_of_getLast? he)
    exact (hend.append _).append _

theorem head?_renderSpec {r : Requirement} (h : r.WellFormed) :
    ∃ c, (renderSpec r).head? = some c ∧ isNameChar c = true ∧ c ≠ '-' := by
  obtain ⟨⟨hne, hchars⟩, hhyphen⟩ := h.name
  obtain ⟨c, s, hs⟩ := List.exists_cons_of_ne_nil hne
  refine ⟨c, by simp [renderSpec, renderHead, hs], hchars c (by simp [hs]), fun he => hhyphen ?_⟩
  rw [hs, he]
  rfl

theorem trimmed_renderSpec {r : Requirement} (h : r.WellFormed) : Trimmed (renderSpec r) := by
  obtain ⟨c, hc, hname, -⟩ := head?_renderSpec h
  obtain ⟨d, hd, hblank, -⟩ := endsPlain_renderSpec h
  refine ⟨fun x hx => ?_, fun x hx => ?_⟩
  · rw [← Option.some.inj (hc.symm.trans hx)]
    exact isBlank_of_isNameChar hname
  · rwa [← Option.some.inj (hd.symm.trans hx)]

theorem lineFeed_not_mem_renderSpec {r : Requirement} (h : r.WellFormed) : '\n' ∉ renderSpec r := by
  have hhead : '\n' ∉ renderHead r := (unbroken_renderHead h).not_mem (by decide)
  have hpin : '\n' ∉ renderPin r.pin := by
    rcases version_or_url h.pin with ⟨v, hp, hv⟩ | ⟨url, hp, hurl⟩
    · rw [hp, renderPin_version]
      simp [hv.not_mem (x := '\n') (by decide) (by decide)]
    · rw [hp]
      simp [hurl.unbroken.not_mem (c := '\n') (by decide)]
  have hmarker : '\n' ∉ renderMarker r.marker := by
    cases hm : r.marker with
    | none => simp [renderMarker]
    | some m => simp [renderMarker, (h.marker m hm).plain.2.2.2]
  simp [renderSpec, hhead, hpin, hmarker]

theorem endsPlain_renderHashes :
    ∀ {hs : List String}, (∀ h ∈ hs, ':' ∈ h.toList ∧ IsWord h.toList) → hs ≠ [] →
    EndsPlain (renderHashes hs)
  | [g], h, _ => by
    obtain ⟨hcolon, hword⟩ := h g (by simp)
    have hne : g.toList ≠ [] := fun he => by simp [he] at hcolon
    have hend :=
      endsPlain_of_trimmed hword.unbroken.trimmed hne fun he =>
        hword.noBackslash (List.mem_of_getLast? he)
    have htext : renderHashes [g] = " --hash=".toList ++ g.toList := List.append_nil _
    rw [htext]
    exact hend.append _
  | g :: k :: hs, h, _ => by
    have ih := endsPlain_renderHashes (List.forall_mem_cons.1 h).2 (List.cons_ne_nil k hs)
    exact ih.append (" --hash=".toList ++ g.toList)

theorem lineFeed_not_mem_renderHashes :
    ∀ {hs : List String}, (∀ h ∈ hs, IsWord h.toList) → '\n' ∉ renderHashes hs
  | [], _ => by simp [renderHashes]
  | g :: hs, h => by
    obtain ⟨hg, hhs⟩ := List.forall_mem_cons.1 h
    have hword : '\n' ∉ "--hash=".toList ++ g.toList := (unbroken_hash hg).not_mem (by decide)
    have ih := lineFeed_not_mem_renderHashes hhs
    rw [renderHashes_cons, List.mem_cons, List.mem_append]
    rintro (hf | hf | hf)
    · cases hf
    · exact hword hf
    · exact ih hf

theorem unfollowed_renderHashes : ∀ {hs : List String}, (∀ h ∈ hs, IsWord h.toList) →
    Unfollowed isAsciiBlank '#' (renderHashes hs)
  | [], _ => .nil
  | g :: hs, h => by
    obtain ⟨hg, hhs⟩ := List.forall_mem_cons.1 h
    have hword : ∀ c ∈ "--hash=".toList ++ g.toList, isAsciiBlank c = false :=
      fun c hc => isAsciiBlank_of_not_isBlank (unbroken_hash hg c hc)
    have hnext : Unfollowed isAsciiBlank '#' ("--hash=".toList ++ g.toList ++ renderHashes hs) :=
      Unfollowed.append (unfollowed_of_none hword) (unfollowed_renderHashes hhs)
        (.inl fun c hc => hword c (List.mem_of_getLast? hc))
    rw [renderHashes_cons]
    exact Unfollowed.append (a := [' ']) (.singleton ' ') hnext (.inr fun he => nomatch he)

theorem splitOptions_render {r : Requirement} (h : r.WellFormed) :
    ∃ options, splitOptions (renderSpec r ++ renderHashes r.hashes) = (renderSpec r, options) ∧
      words options = words (renderHashes r.hashes) := by
  have hspec : Unfollowed (· == ' ') '-' (renderSpec r) := by
    refine unfollowed_renderSpec h (fun c hc => ?_) (.inl rfl) fun m hm => ?_
    · have hne : c ≠ ' ' := by
        rintro rfl
        cases hc
      simpa using hne
    · have hmark := h.marker m hm
      refine ⟨cutAt_pair_eq_none.1 ?_, hmark.start.2⟩
      have hnone := hmark.noOption
      rwa [contains, Option.isSome_eq_false_iff, Option.isNone_iff_eq_none] at hnone
  cases hh : r.hashes with
  | nil =>
    refine ⟨[], ?_, rfl⟩
    rw [show renderHashes [] = [] from rfl, List.append_nil, splitOptions,
      cutAt_pair_eq_none.2 hspec]
  | cons g gs =>
    obtain ⟨rest, hrest⟩ : ∃ rest, renderHashes (g :: gs) = ' ' :: '-' :: rest := ⟨_, rfl⟩
    obtain ⟨c, hc, hblank, -⟩ := endsPlain_renderHashes (hh ▸ h.hashes) (List.cons_ne_nil g gs)
    have htrim : Trimmed ('-' :: rest) := by
      refine ⟨by simp; decide, fun x hx => ?_⟩
      rw [hrest, List.getLast?_cons_cons] at hc
      rwa [← Option.some.inj (hc.symm.trans hx)]
    refine ⟨'-' :: rest, ?_, ?_⟩
    · rw [hrest, splitOptions, cutAt_pair (by decide) rest hspec]
      simp only [trim_trimmed (trimmed_renderSpec h), trim_trimmed htrim]
    · rw [hrest]
      exact (words_blank_cons (by rfl) _).symm

theorem requirement_eq (line : List Char) : requirement line = (do
    let hashes ← (choices (words (splitOptions line).2)).mapM hashOrFlaw
    let parts ← parts (splitOptions line).1
    match nameAndExtras? parts.1 with
    | some (name, extras) => pure ⟨name, extras, parts.2.2, hashes, parts.2.1⟩
    | none => throw .name) := by
  unfold requirement parts
  obtain ⟨spec, options⟩ := splitOptions line
  change (choices (words options)).mapM hashOrFlaw >>= _ = _
  congr 1
  funext hashes
  cases (cutAt " @ ".toList spec).or (Text.cut (· == '@') spec) <;> rfl

theorem requirement_render {r : Requirement} (h : r.WellFormed) :
    requirement (renderRequirement r) = .ok r := by
  have htext : renderRequirement r = renderSpec r ++ renderHashes r.hashes := by
    rfl
  obtain ⟨options, hsplit, hwords⟩ := splitOptions_render h
  rw [requirement_eq, htext, hsplit]
  simp only [hwords, hashes_render h.hashes, parts_render h, bind, Except.bind,
    nameAndExtras?_render h]
  rfl

theorem isPlainLine_renderRequirement {r : Requirement} (h : r.WellFormed) :
    IsPlainLine (renderRequirement r) := by
  have htext : renderRequirement r = renderSpec r ++ renderHashes r.hashes := by
    rfl
  have hwords : ∀ g ∈ r.hashes, IsWord g.toList := fun g hg => (h.hashes g hg).2
  obtain ⟨c, hc, hname, -⟩ := head?_renderSpec h
  obtain ⟨d, hd, hblank, -⟩ := endsPlain_renderSpec h
  rw [htext]
  constructor
  · simp [lineFeed_not_mem_renderSpec h, lineFeed_not_mem_renderHashes hwords]
  · refine ⟨c, by simp [hc], isBlank_of_isNameChar hname, ?_⟩
    rintro rfl
    cases hname
  · cases hh : r.hashes with
    | nil => simpa [renderHashes] using endsPlain_renderSpec h
    | cons g gs => exact (endsPlain_renderHashes (hh ▸ h.hashes) (List.cons_ne_nil g gs)).append _
  · have hspec : Unfollowed isAsciiBlank '#' (renderSpec r) := by
      refine unfollowed_renderSpec h (fun _ => isAsciiBlank_of_not_isBlank)
        (.inr rfl) fun m hm => ?_
      have hmark : '#' ∉ m.toList := (h.marker m hm).plain.1
      exact ⟨unfollowed_of_not_mem hmark, fun he => hmark (List.mem_of_head? he)⟩
    refine hspec.append (unfollowed_renderHashes hwords) (.inl fun x hx => ?_)
    rw [← Option.some.inj (hd.symm.trans hx)]
    exact isAsciiBlank_of_not_isBlank hblank

theorem line_renderRequirement (what : String) {r : Requirement} (h : r.WellFormed) :
    line what (renderRequirement r) = .ok (.requirement r) := by
  obtain ⟨c, hc, -, hhyphen⟩ := head?_renderSpec h
  have hhead : (renderRequirement r).head? = some c := by
    rw [show renderRequirement r = renderSpec r ++ renderHashes r.hashes from rfl]
    simp [hc]
  refine (isPlainLine_renderRequirement h).line_requirement what ?_ (requirement_render h)
  rw [hhead]
  simpa using hhyphen

/-! ## Lines of options -/

def renderIndex (url : String) : List Char := "--index-url ".toList ++ url.toList

theorem isPlainLine_renderIndex {url : String} (hne : url.toList ≠ [])
    (hmark : url.toList.head? ≠ some '#') (h : IsWord url.toList) :
    IsPlainLine (renderIndex url) := by
  have hlast : url.toList.getLast? ≠ some '\\' := fun he => h.noBackslash (List.mem_of_getLast? he)
  have hblank : ∀ c ∈ url.toList, isAsciiBlank c = false :=
    fun c hc => isAsciiBlank_of_not_isBlank (h.unbroken c hc)
  have hfeed : '\n' ∉ url.toList := h.unbroken.not_mem (by decide)
  change IsPlainLine ("--index-url ".toList ++ url.toList)
  constructor
  · simp [hfeed]
  · exact ⟨'-', rfl, by decide, by decide⟩
  · exact (endsPlain_of_trimmed h.unbroken.trimmed hne hlast).append _
  · exact Unfollowed.append (unfollowed_of_not_mem (by decide))
      (unfollowed_of_none hblank) (.inr hmark)

theorem line_renderIndex (what : String) {url : String} (hne : url.toList ≠ [])
    (hmark : url.toList.head? ≠ some '#') (h : IsWord url.toList) :
    line what (renderIndex url) = .ok (.options [.indexUrl url]) := by
  refine (isPlainLine_renderIndex hne hmark h).line_options what rfl ?_
  have hwords : words (renderIndex url) = ["--index-url".toList, url.toList] := by
    have hlead : Unbroken "--index-url".toList := by decide
    have htext : renderIndex url = "--index-url".toList ++ ' ' :: url.toList := rfl
    rw [htext, words_append hlead (by decide) (by simp; decide), words_blank_cons (by rfl),
      words_of_unbroken h.unbroken hne]
  have hset : setting? ("--index-url".toList, some url.toList) = some (.indexUrl url) := by
    simp [setting?, hne]
  have hchoices :
      choices ["--index-url".toList, url.toList] = [("--index-url".toList, some url.toList)] := by
    rfl
  rw [hwords, hchoices, List.mapM_cons, hset]
  rfl

theorem isPlainLine_requireHashes : IsPlainLine "--require-hashes".toList :=
  ⟨by decide, ⟨'-', rfl, by decide, by decide⟩, ⟨'s', rfl, by decide, by decide⟩,
    unfollowed_of_not_mem (by decide)⟩

/-! ## The file -/

def lineList (f : Requirements) : List Line :=
  (f.indexUrl.toList.map fun url => .options [.indexUrl url]) ++
    (if f.requireHashes then [.options [.requireHashes]] else []) ++ f.requirements.map .requirement

theorem renderLines_eq (f : Requirements) : f.renderLines = f.indexUrl.toList.map renderIndex ++
    (if f.requireHashes then ["--require-hashes".toList] else []) ++
      f.requirements.map renderRequirement := rfl

theorem isPlainLine_of_mem {f : Requirements} (h : f.WellFormed) :
    ∀ l ∈ f.renderLines, IsPlainLine l := by
  intro l hl
  rw [renderLines_eq, List.mem_append, List.mem_append, List.mem_map, List.mem_map] at hl
  rcases hl with (⟨url, hurl, rfl⟩ | hhash) | ⟨r, hr, rfl⟩
  · obtain ⟨hne, hmark, hword⟩ := h.indexUrl url (by simpa using hurl)
    exact isPlainLine_renderIndex hne hmark hword
  · split at hhash
    · rw [List.mem_singleton.1 hhash]
      exact isPlainLine_requireHashes
    · cases hhash
  · exact isPlainLine_renderRequirement (h.requirements r hr)

theorem mapM_line_renderLines (what : String) {f : Requirements} (h : f.WellFormed) :
    f.renderLines.mapM (line what) = .ok (lineList f) := by
  have hindex : (f.indexUrl.toList.map renderIndex).mapM (line what) =
      .ok (f.indexUrl.toList.map fun url => .options [.indexUrl url]) := by
    refine mapM_ok fun url hurl => ?_
    obtain ⟨hne, hmark, hword⟩ := h.indexUrl url (by simpa using hurl)
    exact line_renderIndex what hne hmark hword
  have hhash : (if f.requireHashes then ["--require-hashes".toList] else []).mapM (line what) =
      .ok (if f.requireHashes then [.options [.requireHashes]] else []) := by
    have hline : line what "--require-hashes".toList = .ok (.options [.requireHashes]) :=
      isPlainLine_requireHashes.line_options what rfl rfl
    split
    · rw [List.mapM_cons, hline]
      rfl
    · rfl
  have hrequirements : (f.requirements.map renderRequirement).mapM (line what) =
      .ok (f.requirements.map .requirement) :=
    mapM_ok fun r hr => line_renderRequirement what (h.requirements r hr)
  rw [renderLines_eq, List.mapM_append, List.mapM_append, hindex, hhash, hrequirements]
  rfl

theorem foldl_add_map_requirement (rs : List Requirement) : ∀ f : Requirements,
    (rs.map Line.requirement).foldl add f = { f with requirements := f.requirements ++ rs } := by
  induction rs with
  | nil => simp
  | cons r rs ih => simp [add, ih]

theorem foldl_add_lineList (f : Requirements) : (lineList f).foldl add empty = f := by
  obtain ⟨indexUrl, requireHashes, requirements⟩ := f
  rw [lineList, List.foldl_append, foldl_add_map_requirement]
  cases indexUrl <;> cases requireHashes <;> rfl

/-- Reading a file that was written gives it back. -/
theorem parse_render (what : String) (f : Requirements) (h : f.WellFormed) :
    parse what f.render = .ok f := by
  rw [parse_eq_parseLines, parseLines, render, String.toList_ofList,
    logicalLines_flatMap (isPlainLine_of_mem h), mapM_line_renderLines what h]
  exact congrArg Except.ok (foldl_add_lineList f)

/-- A file with a requirement of each kind, in which signs stand where they do not cut. -/
def mixed : Requirements where
  indexUrl := some "https://user@host/simple/?a=b#c"
  requireHashes := true
  requirements := [
    ⟨"zope.interface", ["docs", "test_x"], some "os_name == 'nt'; x", ["sha256:ab", "#:="],
      .version "5.0+local-1"⟩, ⟨"six", [], none, [":"], .repository "ssh://git@host/a@b;c" "v1;=x"⟩,
    ⟨"a-b", ["c"], some "d", [], .url "https://host/f.tar.gz#sha256=12@;=="⟩]

theorem wellFormed_mixed : mixed.WellFormed := by
  have hmarker : IsMarker "os_name == 'nt'; x".toList :=
    ⟨by decide, ⟨by rintro c ⟨⟩; rfl, by rintro c ⟨⟩; rfl⟩, by decide, by decide, by decide⟩
  have hlast : IsMarker "d".toList :=
    ⟨by decide, Unbroken.trimmed (by decide), by decide, by decide, by decide⟩
  have hversion : IsPlainVersion "5.0+local-1".toList := by decide
  have hrepository : IsRepositoryUrl "ssh://git@host/a@b;c".toList :=
    ⟨"ssh".toList, "git@host".toList, "a@b;c".toList, by decide, by decide⟩
  constructor
  · rintro url ⟨⟩
    decide
  · intro r hr
    simp only [mixed, List.mem_cons, List.not_mem_nil, or_false] at hr
    rcases hr with rfl | rfl | rfl
    · exact ⟨by decide, by decide, hversion, by rintro m ⟨⟩; exact hmarker, by decide⟩
    · exact ⟨by decide, by decide,
        ⟨hrepository, by decide, by decide, by decide, by decide, by decide, by decide, by decide⟩,
        by rintro m ⟨⟩, by decide⟩
    · exact ⟨by decide, by decide, ⟨by decide, by decide⟩, by rintro m ⟨⟩; exact hlast, by decide⟩

theorem parse_render_mixed : mixed.WellFormed ∧ parse "requirements.txt" mixed.render = .ok mixed :=
  ⟨wellFormed_mixed, parse_render "requirements.txt" mixed wellFormed_mixed⟩

end FetchPlan.Requirements
