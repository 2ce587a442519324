import FetchPlan.Proofs.CutText
import FetchPlan.Requirements.Printer
import FetchPlan.Requirements.Reader

/-!
The parts of a requirement that is written out. What may stand in each of them is said by
`Requirement.WellFormed`; each part then ends where it was put: the extras at their brackets
(`nameAndExtras?_render`), the marker at its semicolon (`splitMarker_render`), the reference of a
repository at the last at sign (`repositoryPin?_render`), and the pin at its signs
(`parts_render`). The hashes are read word by word (`hashes_render`).
-/
namespace FetchPlan

open Text

/-! ## What can be written -/

namespace Requirements

/-- Whether a text can stand in a line as one word that does not continue the line. -/
structure IsWord (s : List Char) : Prop where
  unbroken : Unbroken s
  noBackslash : '\\' ∉ s

/-- Whether a text is a marker that a line can hold. -/
structure IsMarker (m : List Char) : Prop where
  notEmpty : m ≠ []
  trimmed : Trimmed m
  plain : '#' ∉ m ∧ '@' ∉ m ∧ '\\' ∉ m ∧ '\n' ∉ m
  noOption : contains [' ', '-'] m = false
  start : m.head? ≠ some ';' ∧ m.head? ≠ some '-'

/-- Whether a URL is a scheme, an authority and a path that is more than a slash. -/
def IsRepositoryUrl (url : List Char) : Prop :=
  ∃ scheme authority path, url = scheme ++ "://".toList ++ (authority ++ '/' :: path) ∧ path ≠ []

/-- Whether a name is not empty and has only characters of names. -/
def IsPlainName (name : List Char) : Prop := name ≠ [] ∧ ∀ c ∈ name, isNameChar c = true

def IsPlainVersion (version : List Char) :
    Prop := version ≠ [] ∧ ∀ c ∈ version, isNameChar c = true ∨ c = '+'

instance (s : List Char) : Decidable (IsWord s) :=
  decidable_of_iff (Unbroken s ∧ '\\' ∉ s)
    ⟨fun h => ⟨h.1, h.2⟩, fun h => ⟨h.unbroken, h.noBackslash⟩⟩
instance (name : List Char) : Decidable (IsPlainName name) :=
  @instDecidableAnd _ _ _ (List.decidableBAll (isNameChar · = true) name)
instance (version : List Char) : Decidable (IsPlainVersion version) :=
  @instDecidableAnd _ _ _ (List.decidableBAll (fun c => isNameChar c = true ∨ c = '+') version)

end Requirements

open Requirements

/-- Whether what is pinned can be written after a name. -/
def Pin.WellFormed : Pin → Prop
  | .version v => IsPlainVersion v.toList
  | .repository u reference =>
    IsRepositoryUrl u.toList ∧ Unbroken u.toList ∧ '#' ∉ u.toList ∧
      reference.toList ≠ [] ∧ Unbroken reference.toList ∧ '@' ∉ reference.toList ∧
      '#' ∉ reference.toList ∧ reference.toList.getLast? ≠ some '\\'
  | .url u =>
    ((after? "http://" u.toList).isSome ∨ (after? "https://" u.toList).isSome) ∧ IsWord u.toList

/-- Whether a requirement can be written on a line. -/
structure Requirement.WellFormed (r : Requirement) : Prop where
  name : IsPlainName r.name.toList ∧ r.name.toList.head? ≠ some '-'
  extras : ∀ e ∈ r.extras, IsPlainName e.toList
  pin : r.pin.WellFormed
  marker : ∀ m ∈ r.marker, IsMarker m.toList
  hashes : ∀ h ∈ r.hashes, ':' ∈ h.toList ∧ IsWord h.toList

namespace Requirements

/-- Whether a file can be written. -/
structure WellFormed (f : Requirements) : Prop where
  indexUrl : ∀ url ∈ f.indexUrl, url.toList ≠ [] ∧ url.toList.head? ≠ some '#' ∧ IsWord url.toList
  requirements : ∀ r ∈ f.requirements, r.WellFormed

/-! ## Characters -/

theorem isBlank_of_isNameChar {c : Char} (h : isNameChar c = true) : isBlank c = false := by
  unfold isNameChar Char.isAlphanum Char.isAlpha Char.isUpper Char.isLower Char.isDigit at h
  simp only [Bool.or_eq_true, Bool.and_eq_true, decide_eq_true_eq, beq_iff_eq,
    UInt32.le_iff_toNat_le, Char.toNat_val] at h
  rcases h with ((h | rfl) | rfl) | rfl
  · have h : (65 ≤ c.toNat ∧ c.toNat ≤ 90 ∨ 97 ≤ c.toNat ∧ c.toNat ≤ 122) ∨ 48 ≤ c.toNat ∧
        c.toNat ≤ 57 := h
    simp only [isBlank, Bool.or_eq_false_iff, Bool.and_eq_false_iff, decide_eq_false_iff_not,
      beq_eq_false_iff_ne]
    omega
  · decide
  · decide
  · decide

theorem not_isNameChar_of_isLoose {c : Char} (h : isLoose c = true) :
    isNameChar c = false ∧ c ≠ '+' := by
  simp only [isLoose, Bool.or_eq_true, beq_iff_eq] at h
  rcases h with (((((rfl | rfl) | rfl) | rfl) | rfl) | rfl) | rfl <;> decide

namespace IsPlainName

variable {s : List Char} (h : IsPlainName s)
include h

theorem unbroken : Unbroken s := fun c hc => isBlank_of_isNameChar (h.2 c hc)

theorem not_mem {x : Char} (hx : isNameChar x = false) : x ∉ s := by
  intro hs
  rw [h.2 x hs] at hx
  cases hx

end IsPlainName

namespace IsPlainVersion

variable {v : List Char} (h : IsPlainVersion v)
include h

theorem unbroken : Unbroken v := by
  intro c hc
  rcases h.2 c hc with hn | rfl
  · exact isBlank_of_isNameChar hn
  · decide

theorem not_mem {x : Char} (hx : isNameChar x = false) (hplus : x ≠ '+') : x ∉ v := by
  intro hv
  rcases h.2 x hv with hn | rfl
  · rw [hn] at hx
    cases hx
  · exact hplus rfl

end IsPlainVersion

/-! ## Name and extras -/

def renderHead (r : Requirement) : List Char := r.name.toList ++ renderExtras r.extras

theorem renderExtras_cons (e : String) (es : List String) :
    renderExtras (e :: es) = '[' :: [','].intercalate ((e :: es).map String.toList) ++ [']'] := by
  have h : ∀ e : String, ∀ es : List String, [','].intercalate ((e :: es).map String.toList) =
      e.toList ++ es.flatMap fun e => ',' :: e.toList := by
    intro e es
    induction es generalizing e with
    | nil => simp
    | cons g es ih =>
      have := ih g
      rw [List.map_cons] at this
      rw [List.map_cons, List.map_cons, List.intercalate_cons_cons, this]
      simp
  rw [h, renderExtras]
  simp

/-- What stands before a pin is one word, without the signs at which a line is cut. -/
theorem mem_renderHead {r : Requirement} (h : r.WellFormed) {c : Char} (hc : c ∈ renderHead r) :
    isNameChar c = true ∨ c = '[' ∨ c = ',' ∨ c = ']' := by
  rcases List.mem_append.1 hc with hc | hc
  · exact .inl (h.name.1.2 c hc)
  · cases he : r.extras with
    | nil => rw [he] at hc; cases hc
    | cons e es =>
      have hextras := h.extras
      rw [he] at hc hextras
      simp only [renderExtras, List.cons_append, List.mem_cons, List.mem_append, List.mem_flatMap,
        List.not_mem_nil, or_false] at hc
      rcases hc with rfl | (hc | ⟨e', he', rfl | hc⟩) | rfl
      · simp
      · exact .inl ((hextras e List.mem_cons_self).2 c hc)
      · simp
      · exact .inl ((hextras e' (List.mem_cons_of_mem e he')).2 c hc)
      · simp

theorem unbroken_renderHead {r : Requirement} (h : r.WellFormed) : Unbroken (renderHead r) := by
  intro c hc
  rcases mem_renderHead h hc with hn | rfl | rfl | rfl
  · exact isBlank_of_isNameChar hn
  · decide
  · decide
  · decide

theorem not_mem_renderHead {r : Requirement} (h : r.WellFormed) {x : Char}
    (hx : isNameChar x = false) (hbracket : x ∉ ['[', ',', ']']) : x ∉ renderHead r := by
  intro hr
  rcases mem_renderHead h hr with hn | rfl | rfl | rfl
  · rw [hn] at hx
    cases hx
  all_goals simp at hbracket

theorem nameAndExtras?_render {r : Requirement} (h : r.WellFormed) :
    nameAndExtras? (renderHead r) = some (r.name, r.extras) := by
  have hname : '[' ∉ r.name.toList := h.name.1.not_mem (by decide)
  have hvalid : r.name.toList ≠ [] ∧ r.name.toList.all isNameChar = true :=
    ⟨h.name.1.1, List.all_eq_true.2 h.name.1.2⟩
  unfold nameAndExtras? renderHead
  cases he : r.extras with
  | nil =>
    rw [renderExtras, List.append_nil, cut_beq_eq_none.2 hname]
    simp only [Option.bind_eq_bind, Option.bind_some]
    rw [if_pos hvalid]
    simp
  | cons e es =>
    have hextras := h.extras
    rw [he] at hextras
    have hfields : fields (· == ',') ([','].intercalate ((e :: es).map String.toList)) =
        (e :: es).map String.toList := by
      refine fields_intercalate (by rfl) (by simp) fun f hf => ?_
      obtain ⟨e', he', rfl⟩ := List.mem_map.1 hf
      exact beq_false_of_not_mem ((hextras e' he').not_mem (by decide))
    have hkept :
        (((e :: es).map String.toList).map trim).filter (· ≠ []) = (e :: es).map String.toList := by
      have htrim : ((e :: es).map String.toList).map trim = (e :: es).map String.toList := by
        rw [List.map_map]
        exact List.map_congr_left fun e' he' => trim_trimmed (hextras e' he').unbroken.trimmed
      rw [htrim, List.filter_eq_self]
      intro f hf
      obtain ⟨e', he', rfl⟩ := List.mem_map.1 hf
      simpa using (hextras e' he').1
    rw [renderExtras_cons, List.cons_append, cut_beq_eq_some.2 ⟨hname, rfl⟩]
    have hbefore : before? "]" ([','].intercalate ((e :: es).map String.toList) ++ [']']) =
        some ([','].intercalate ((e :: es).map String.toList)) := before?_append "]" _
    simp only [Option.bind_eq_bind, Option.bind_some, hbefore, hfields, hkept,
      trim_trimmed h.name.1.unbroken.trimmed, Option.pure_def]
    rw [if_pos hvalid]
    simp [Function.comp_def]

/-! ## Pin and marker -/

/-- A marker is cut off at its semicolon, whether the blank before that goes with the separator or
not. -/
theorem splitMarker_render (gap : List Char) {separator s : List Char} {m : Option String}
    (hs : Unbroken s) (hne : s ≠ []) (hgap : ∀ c ∈ gap, isBlank c = true)
    (hnone : cutAt separator s = none)
    (hsome : ∀ rest, cutAt separator (s ++ " ;".toList ++ rest) = some (s ++ gap, rest))
    (hm : ∀ m' ∈ m, IsMarker m'.toList) : splitMarker separator (s ++ renderMarker m) = (s, m) := by
  cases m with
  | none => rw [renderMarker, List.append_nil, splitMarker, hnone, trim_trimmed hs.trimmed]
  | some m =>
    have hmark := hm m rfl
    have hrest : s ++ renderMarker (some m) = s ++ " ;".toList ++ (' ' :: m.toList) := by
      simp [renderMarker]
    have hdrop : (' ' :: m.toList).dropWhile (· == ';') = ' ' :: m.toList := rfl
    have htrim : trim (' ' :: m.toList) = m.toList := by
      simpa using trim_append (a := [' ']) (b := []) (List.forall_mem_singleton.2 rfl)
        (by simp) hmark.trimmed
        hmark.notEmpty
    have hhead : trim (s ++ gap) = s := by
      simpa using trim_append (a := []) (by simp) hgap hs.trimmed hne
    rw [hrest, splitMarker, hsome]
    simp only [hdrop, htrim, hhead, hmark.notEmpty, if_false, String.ofList_toList]

theorem cutLast_append {p : Char → Bool} {c : Char} (hc : p c = true) (a : List Char)
    {b : List Char} (hb : ∀ x ∈ b, p x = false) : cutLast p (a ++ c :: b) = some (a, b) := by
  have hrev : (a ++ c :: b).reverse = b.reverse ++ c :: a.reverse := by simp
  rw [cutLast, hrev, cut_append hc _ (by simpa using hb)]
  simp

/-- A repository is read from its URL and its reference with an at sign between them. -/
theorem repositoryPin?_render {u reference : String} (h : (Pin.repository u reference).WellFormed) :
    repositoryPin? (u.toList ++ '@' :: reference.toList) = some (.repository u reference) := by
  obtain ⟨⟨scheme, authority, path, hu, hpath⟩, -, hmark, href, -, hat, hrefMark, -⟩ := h
  -- the scheme and the authority may end earlier than they were meant to, but the path goes on to
  -- the end
  have hfragment : Text.cut (· == '#') (u.toList ++ '@' :: reference.toList) = none := by
    refine cut_beq_eq_none.2 ?_
    simp [hmark, hrefMark]
  have hall : u.toList ++ '@' :: reference.toList =
      scheme ++ "://".toList ++ (authority ++ '/' :: (path ++ '@' :: reference.toList)) := by
    rw [hu]
    simp only [List.append_assoc, List.cons_append]
  obtain ⟨scheme', remainder, hscheme, t, hremainder⟩ :=
    cutAt_of_append "://".toList (authority ++ '/' :: (path ++ '@' :: reference.toList)) scheme
  rw [← hall] at hscheme
  obtain ⟨authority', rest, hauthority, t', hrest⟩ :=
    cut_of_append (p := (· == '/')) (c := '/') (by rfl) (t ++ authority)
      (path ++ '@' :: reference.toList)
  rw [List.append_assoc, hremainder] at hauthority
  have hlast : cutLast (· == '@') ('/' :: rest) = some ('/' :: t' ++ path, reference.toList) := by
    rw [← hrest, ← List.append_assoc, ← List.cons_append]
    exact cutLast_append (by rfl) _ (beq_false_of_not_mem hat)
  -- what was cut off goes together to what there was
  have htogether : scheme' ++ "://".toList ++ authority' ++ ('/' :: t' ++ path) = u.toList := by
    obtain ⟨-, hcut⟩ := cut_beq_eq_some.1 hauthority
    have hwhole := cutAt_eq_some hscheme
    rw [hcut, ← hrest] at hwhole
    have hends : scheme' ++ "://".toList ++ authority' ++ ('/' :: t' ++ path) ++
        '@' :: reference.toList =
        u.toList ++ '@' :: reference.toList := by
      rw [hwhole]
      simp only [List.append_assoc, List.cons_append]
    exact List.append_cancel_right hends
  have hlong : ¬ (reference.toList = [] ∨ ('/' :: t' ++ path).length ≤ 1) := by
    have hpos := List.length_pos_iff.2 hpath
    simp only [href, List.length_append, List.length_cons, false_or]
    omega
  simp only [repositoryPin?, hfragment, hscheme, hauthority, hlast, Option.bind_eq_bind,
    Option.bind_some, if_neg hlong, htogether, String.ofList_toList, Option.pure_def]

theorem renderPin_version (v : String) : renderPin (.version v) = "==".toList ++ v.toList := rfl

theorem renderPin_url (u : String) : renderPin (.url u) = " @ ".toList ++ u.toList := rfl

theorem renderPin_repository (u reference : String) : renderPin (.repository u reference) =
    " @ ".toList ++ ("git+".toList ++ (u.toList ++ '@' :: reference.toList)) := by
  have h : renderPin (.repository u reference) =
      " @ ".toList ++ "git+".toList ++ u.toList ++ '@' :: reference.toList := rfl
  rw [h]
  simp only [List.append_assoc]

/-- Whether a text is read as a URL that is pinned, and can end a line. -/
structure IsUrlOf (pin : Pin) (url : List Char) : Prop where
  unbroken : Unbroken url
  head : url.head? = some 'g' ∨ url.head? = some 'h'
  last : url.getLast? ≠ some '\\'
  read : urlPin? url = some pin

theorem IsUrlOf.ne_nil {pin : Pin} {url : List Char} (h : IsUrlOf pin url) : url ≠ [] := by
  rintro rfl
  simpa using h.head

theorem isUrlOf_repository {u reference : String} (h : (Pin.repository u reference).WellFormed) :
    IsUrlOf (.repository u reference) ("git+".toList ++ (u.toList ++ '@' :: reference.toList)) := by
  obtain ⟨-, hu, -, href, hrefUnbroken, -, -, hlast⟩ := id h
  have hgit : Unbroken "git+".toList := by decide
  have hat : Unbroken ('@' :: reference.toList) :=
    Unbroken.append (a := ['@']) (by decide) hrefUnbroken
  refine ⟨hgit.append (hu.append hat), .inl rfl, ?_, ?_⟩
  · have hend : "git+".toList ++ (u.toList ++ '@' :: reference.toList) =
        ("git+".toList ++ (u.toList ++ ['@'])) ++ reference.toList := by
      simp only [List.append_assoc, List.singleton_append]
    rwa [hend, List.getLast?_append_of_ne_nil _ href]
  · rw [urlPin?, after?_append]
    exact repositoryPin?_render h

theorem isUrlOf_url {u : String} (h : (Pin.url u).WellFormed) : IsUrlOf (.url u) u.toList := by
  obtain ⟨hweb, hword⟩ := h
  obtain ⟨r, hr⟩ : ∃ r, u.toList = "http://".toList ++ r ∨ u.toList = "https://".toList ++ r := by
    rcases hweb with hweb | hweb
    · obtain ⟨r, hr⟩ := Option.isSome_iff_exists.1 hweb
      exact ⟨r, .inl (eq_of_isPrefixOf? hr)⟩
    · obtain ⟨r, hr⟩ := Option.isSome_iff_exists.1 hweb
      exact ⟨r, .inr (eq_of_isPrefixOf? hr)⟩
  have hgit : after? "git+" u.toList = none := by rcases hr with hr | hr <;> rw [hr] <;> rfl
  refine ⟨hword.unbroken, .inr ?_, fun hl => hword.noBackslash (List.mem_of_getLast? hl), ?_⟩
  · rcases hr with hr | hr <;> rw [hr] <;> rfl
  · rw [urlPin?, hgit]
    simp only [hweb.symm, if_true, String.ofList_toList]

/-- What is pinned is a version, or a URL that stands after a sign between blanks. -/
theorem version_or_url {pin : Pin} (h : pin.WellFormed) :
    (∃ v : String, pin = .version v ∧ IsPlainVersion v.toList) ∨
      ∃ url, renderPin pin = " @ ".toList ++ url ∧ IsUrlOf pin url := by
  cases pin with
  | version v => exact .inl ⟨v, rfl, h⟩
  | repository u reference => exact .inr ⟨_, renderPin_repository u reference, isUrlOf_repository h⟩
  | url u => exact .inr ⟨_, renderPin_url u, isUrlOf_url h⟩

theorem trimmed_append_renderMarker {s : List Char} {m : Option String} (hs : Trimmed s)
    (hne : s ≠ []) (hm : ∀ m' ∈ m, IsMarker m'.toList) : Trimmed (s ++ renderMarker m) := by
  cases m with
  | none => rwa [renderMarker, List.append_nil]
  | some m =>
    have hmark := hm m rfl
    constructor
    · rw [List.head?_append_of_ne_nil _ hne]
      exact hs.head
    · rw [renderMarker, ← List.append_assoc, List.getLast?_append_of_ne_nil _ hmark.notEmpty]
      exact hmark.trimmed.last

theorem urlSpec_render {head url : List Char} {pin : Pin} {m : Option String}
    (hhead : Unbroken head) (hurl : Unbroken url) (hne : url ≠ []) (hpin : urlPin? url = some pin)
    (hm : ∀ m' ∈ m, IsMarker m'.toList) :
    urlSpec head (url ++ renderMarker m) = .ok (head, pin, m) := by
  have hmarker : splitMarker [' ', ';'] (url ++ renderMarker m) = (url, m) := by
    have hblank : ' ' ∉ url := hurl.not_mem (by decide)
    refine splitMarker_render [] hurl hne (by simp) (cutAt_eq_none (by simp) hblank)
      (fun rest => ?_) hm
    rw [List.append_nil]
    exact cutAt_append rest hblank
  rw [urlSpec, trim_trimmed (trimmed_append_renderMarker hurl.trimmed hne hm), hmarker]
  simp only [hpin, trim_trimmed hhead.trimmed]

theorem versionSpec_render {head : List Char} {v : String} {m : Option String}
    (hhead : Unbroken head) (hequals : '=' ∉ head) (hsemi : ';' ∉ head)
    (hv : IsPlainVersion v.toList) (hm : ∀ m' ∈ m, IsMarker m'.toList) :
    versionSpec (head ++ "==".toList ++ v.toList ++ renderMarker m) =
      .ok (head, .version v, m) := by
  have hmarker : splitMarker [';'] (head ++ "==".toList ++ v.toList ++ renderMarker m) =
      (head ++ "==".toList ++ v.toList, m) := by
    have hfree : ';' ∉ head ++ "==".toList ++ v.toList := by
      simp [hsemi, hv.not_mem (x := ';') (by decide) (by decide)]
    refine splitMarker_render [' '] ?_ (by simp) (List.forall_mem_singleton.2 rfl)
      (cutAt_eq_none (by simp) hfree)
      (fun rest => ?_) hm
    · exact (hhead.append (by decide)).append hv.unbroken
    · have hfree' : ';' ∉ head ++ "==".toList ++ v.toList ++ [' '] := by simpa using hfree
      have hcut : cutAt [';'] (head ++ "==".toList ++ v.toList ++ [' '] ++ [';'] ++ rest) =
          some (_, rest) :=
        cutAt_append rest hfree'
      simpa using hcut
  have hcut : cutAt "==".toList (head ++ "==".toList ++ v.toList) = some (head, v.toList) :=
    cutAt_append v.toList hequals
  have hclean : ¬ (v.toList = [] ∨ v.toList.head? = some '=' ∨ v.toList.any isLoose = true) := by
    rintro (h | h | h)
    · exact hv.1 h
    · exact hv.not_mem (x := '=') (by decide) (by decide) (List.mem_of_mem_head? h)
    · obtain ⟨c, hc, hl⟩ := List.any_eq_true.1 h
      obtain ⟨hname, hplus⟩ := not_isNameChar_of_isLoose hl
      exact hv.not_mem hname hplus hc
  rw [versionSpec, hmarker]
  simp only [hcut, trim_trimmed hv.unbroken.trimmed, trim_trimmed hhead.trimmed, if_neg hclean,
    String.ofList_toList]

/-! ## One requirement -/

def renderSpec (r : Requirement) :
    List Char := renderHead r ++ renderPin r.pin ++ renderMarker r.marker

def parts (spec : List Char) : Except Flaw (List Char × Pin × Option String) :=
  match (cutAt " @ ".toList spec).or (Text.cut (· == '@') spec) with
  | some (head, rest) => urlSpec head rest
  | none => versionSpec spec

theorem parts_url {r : Requirement} {url : List Char} (h : r.WellFormed)
    (hp : renderPin r.pin = " @ ".toList ++ url) (hurl : IsUrlOf r.pin url) :
    parts (renderSpec r) = .ok (renderHead r, r.pin, r.marker) := by
  have hhead := unbroken_renderHead h
  have hcut : cutAt " @ ".toList (renderSpec r) =
      some (renderHead r, url ++ renderMarker r.marker) := by
    rw [renderSpec, hp, ← List.append_assoc, List.append_assoc]
    exact cutAt_append _ (hhead.not_mem (by decide))
  rw [parts, hcut]
  exact urlSpec_render hhead hurl.unbroken hurl.ne_nil hurl.read h.marker

theorem parts_version {r : Requirement} {v : String} (h : r.WellFormed) (hp : r.pin = .version v)
    (hv : IsPlainVersion v.toList) :
    parts (renderSpec r) = .ok (renderHead r, r.pin, r.marker) := by
  have hspec : renderSpec r = renderHead r ++ "==".toList ++ v.toList ++ renderMarker r.marker := by
    rw [renderSpec, hp, renderPin_version, List.append_assoc (renderHead r) "==".toList]
  have hmarker : '@' ∉ renderMarker r.marker := by
    cases hm : r.marker with
    | none => simp [renderMarker]
    | some m => simp [renderMarker, (h.marker m hm).plain.2.1]
  have hat : '@' ∉ renderSpec r := by
    have hhead : '@' ∉ renderHead r := not_mem_renderHead h (by decide) (by decide)
    have hversion : '@' ∉ v.toList := hv.not_mem (by decide) (by decide)
    rw [hspec]
    simp [hhead, hversion, hmarker]
  have hcut : Text.cut (· == '@') (renderSpec r) = none := cut_beq_eq_none.2 hat
  rw [parts, cutAt_eq_none (x := '@') (by decide) hat, hcut, hspec, hp]
  exact versionSpec_render (unbroken_renderHead h) (not_mem_renderHead h (by decide) (by decide))
    (not_mem_renderHead h (by decide) (by decide)) hv h.marker

theorem parts_render {r : Requirement} (h : r.WellFormed) :
    parts (renderSpec r) = .ok (renderHead r, r.pin, r.marker) := by
  rcases version_or_url h.pin with ⟨v, hpin, hv⟩ | ⟨url, hpin, hurl⟩
  · exact parts_version h hpin hv
  · exact parts_url h hpin hurl

/-! ## Hashes -/

def renderHashes (hashes : List String) :
    List Char := hashes.flatMap fun h => " --hash=".toList ++ h.toList

theorem renderHashes_cons (h : String) (hs : List String) :
    renderHashes (h :: hs) = ' ' :: ("--hash=".toList ++ h.toList ++ renderHashes hs) := by
  rfl

theorem unbroken_hash {h : String} (hh : IsWord h.toList) :
    Unbroken ("--hash=".toList ++ h.toList) :=
  Unbroken.append (by decide) hh.unbroken

theorem words_renderHashes : ∀ {hs : List String}, (∀ h ∈ hs, IsWord h.toList) →
    words (renderHashes hs) = hs.map fun h => "--hash=".toList ++ h.toList
  | [], _ => rfl
  | h :: hs, hword => by
    obtain ⟨hh, hhs⟩ := List.forall_mem_cons.1 hword
    have hblank : ∀ c ∈ (renderHashes hs).head?, isBlank c = true := by
      cases hs with
      | nil => simp [renderHashes]
      | cons g hs =>
        rw [renderHashes_cons]
        rintro c ⟨⟩
        rfl
    rw [renderHashes_cons, words_blank_cons (by rfl),
      words_append (unbroken_hash hh) (by simp) hblank, words_renderHashes hhs, List.map_cons]

theorem choices_cons {w option value : List Char}
    (h : Text.cut (· == '=') w = some (option, value)) :
    ∀ ws, choices (w :: ws) = (option, some value) :: choices ws
  | [] => by simp only [choices, h]
  | _ :: _ => by simp only [choices, h]

theorem choices_hashes : ∀ hs : List String,
    choices (hs.map fun h => "--hash=".toList ++ h.toList) = hs.map fun h =>
      ("--hash".toList, some h.toList)
  | [] => rfl
  | h :: hs => by
    have hcut : Text.cut (· == '=') ("--hash=".toList ++ h.toList) =
        some ("--hash".toList, h.toList) :=
      cut_beq_eq_some.2 ⟨by decide, rfl⟩
    rw [List.map_cons, choices_cons hcut, choices_hashes hs, List.map_cons]

def hashOrFlaw (c : Choice) : Except Flaw String :=
  match hash? c with
  | some h => .ok h
  | none => .error .option

theorem hashOrFlaw_hash {h : String} (hh : ':' ∈ h.toList) :
    hashOrFlaw ("--hash".toList, some h.toList) = .ok h := by
  have hhash : hash? ("--hash".toList, some h.toList) = some h := by
    have hcolon : h.toList.contains ':' = true := by simpa using hh
    simp only [hash?, hcolon, and_self, if_true, String.ofList_toList]
  rw [hashOrFlaw, hhash]

theorem mapM_ok {ε α β γ : Type} {f : α → Except ε β} {g : γ → α} {k : γ → β} : ∀ {xs : List γ},
    (∀ x ∈ xs, f (g x) = .ok (k x)) → (xs.map g).mapM f = .ok (xs.map k)
  | [], _ => rfl
  | x :: xs, h => by
    obtain ⟨hx, hxs⟩ := List.forall_mem_cons.1 h
    rw [List.map_cons, List.mapM_cons, hx, mapM_ok hxs]
    rfl

theorem hashes_render {hs : List String} (h : ∀ g ∈ hs, ':' ∈ g.toList ∧ IsWord g.toList) :
    (choices (words (renderHashes hs))).mapM hashOrFlaw = .ok hs := by
  rw [words_renderHashes fun g hg => (h g hg).2, choices_hashes,
    mapM_ok fun g hg => hashOrFlaw_hash (h g hg).1, List.map_id']

end Requirements
end FetchPlan
