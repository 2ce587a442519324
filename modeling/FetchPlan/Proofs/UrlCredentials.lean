import FetchPlan.Proofs.CutText
import FetchPlan.Proofs.EncodedText
import FetchPlan.Remote

/-!
URLs without their credentials. The text of a URL with credentials is that of the URL without
them, with the user information and an at sign after the slashes (`render_of_hasCredentials`,
`render_withoutCredentials`). Neither end of the text is cut off by reading it (`clean_append`),
the scheme is read from what stands before the slashes (`scheme?_append`), and the user
information holds no character that would end it, so what stands behind the at sign is read as it
is without it (`parseAuthority?_withoutInfo`). So a URL that is read from its own text is read
without its credentials from its text without them (`parse?_withoutCredentials`).

A scheme decides how the rest is read, so each lemma takes the kind of the scheme as a parameter,
and a local file, which has no credentials, is dealt with apart (`of_parseFile?`).
-/
namespace FetchPlan.Url

open Text

/-! ## Texts of a URL -/

def infoText (u : Url) :
    List Char := u.username.toList ++ if u.password = "" then [] else ':' :: u.password.toList

def placeText (u : Url) : List Char :=
  u.host.toList ++ (match u.port with | some p => ":" ++ toString p | none => "").toList ++
    u.pathText.toList ++
    (match u.query with | some q => "?" ++ q | none => "").toList ++
    (match u.fragment with | some f => "#" ++ f | none => "").toList

theorem hasCredentials_eq_false {u : Url} :
    u.hasCredentials = false ↔ u.withoutCredentials = u := by
  constructor
  · intro h
    obtain ⟨hu, hp⟩ : u.username = "" ∧ u.password = "" := by simpa [hasCredentials] using h
    obtain ⟨scheme, username, password, host, port, path, query, fragment⟩ := u
    cases hu
    cases hp
    rfl
  · intro h
    rw [← h]
    rfl

theorem render_of_hasCredentials {u : Url} (h : u.hasCredentials = true) :
    u.render.toList = u.scheme.toList ++ ':' :: '/' :: '/' ::
      (u.infoText ++ '@' :: u.placeText) := by
  have hinfo : ¬ (u.username = "" ∧ u.password = "") := by
    rintro ⟨hu, hp⟩
    simp [hasCredentials, hu, hp] at h
  have htext : (u.userInfoText).toList = u.infoText ++ ['@'] := by
    rw [userInfoText, if_neg hinfo, infoText]
    by_cases hp : u.password = "" <;> simp [hp]
  simp only [render, String.toList_append, htext, placeText, List.append_assoc]
  rfl

theorem render_withoutCredentials (u : Url) :
    u.withoutCredentials.render.toList = u.scheme.toList ++ ':' :: '/' :: '/' :: u.placeText := by
  have htext : u.withoutCredentials.userInfoText = "" := rfl
  simp only [render, String.toList_append, htext, placeText, List.append_assoc]
  rfl

/-! ## Characters at the ends -/

/-- Whether a character is left where it stands when a text is cleaned. -/
def IsSolid (c : Char) : Prop := 0x20 < c.toNat

def isEdge (c : Char) : Bool := c.toNat ≤ 0x20

def isLineEnd (c : Char) : Bool := c == '\t' || c == '\n' || c == '\r'

theorem IsSolid.not_isEdge {c : Char} (h : IsSolid c) : isEdge c = false := by
  unfold IsSolid at h
  simpa [isEdge] using h

theorem IsSolid.not_isLineEnd {c : Char} (h : IsSolid c) : isLineEnd c = false := by
  have hne : c ≠ '\t' ∧ c ≠ '\n' ∧ c ≠ '\r' := by
    refine ⟨?_, ?_, ?_⟩ <;> rintro rfl <;> exact absurd h (by unfold IsSolid; decide)
  simp [isLineEnd, hne]

/-- A text cleaned at its end only. -/
def cleanEnd (s : List Char) :
    List Char := ((s.reverse.dropWhile isEdge).reverse).filter fun c => !isLineEnd c

theorem clean_eq (s : List Char) : clean s = cleanEnd (s.dropWhile isEdge) := rfl

theorem clean_append {a : List Char} (ha : ∀ c ∈ a, IsSolid c) (hne : a ≠ []) (b : List Char) :
    clean (a ++ b) = a ++ cleanEnd b := by
  have hstart : (a ++ b).dropWhile isEdge = a ++ b := by
    obtain ⟨c, a, rfl⟩ := List.exists_cons_of_ne_nil hne
    exact List.dropWhile_cons_of_neg (by simp [(ha c List.mem_cons_self).not_isEdge])
  have hback : a.reverse.dropWhile isEdge = a.reverse := by
    refine dropWhile_append (a := []) (by simp) fun c hc => ?_
    exact (ha c (List.mem_reverse.1 (List.mem_of_mem_head? hc))).not_isEdge
  -- what is dropped at the end stops at `a`, however much of `b` goes
  have hend : (a ++ b).reverse.dropWhile isEdge = b.reverse.dropWhile isEdge ++ a.reverse := by
    rw [List.reverse_append, List.dropWhile_append]
    split
    · next hb => rw [hback, List.isEmpty_iff.1 hb, List.nil_append]
    · rfl
  have hkept : (a.filter fun c => !isLineEnd c) = a := by
    rw [List.filter_eq_self]
    intro c hc
    rw [(ha c hc).not_isLineEnd]
    rfl
  rw [clean_eq, hstart, cleanEnd, hend, List.reverse_append, List.reverse_reverse,
    List.filter_append, hkept, cleanEnd]

/-! ## Scheme -/

theorem scheme?_append {s r rest : List Char} (h : scheme? (s ++ ':' :: r) = some (s, rest)) :
    rest = r ∧ ∀ r', scheme? (s ++ ':' :: r') = some (s, r') := by
  unfold scheme? at h ⊢
  simp only [Option.bind_eq_bind, Option.bind_eq_some_iff] at h
  obtain ⟨⟨name, rest'⟩, hcut, first, hfirst, h⟩ := h
  simp only at hfirst h
  split at h
  · next hname =>
    obtain ⟨hs, rfl⟩ : name.map Char.toLower = s ∧ rest' = rest := by simpa using h
    obtain ⟨hcolon, hwhole⟩ := cut_beq_eq_some.1 hcut
    -- the name is as long as the scheme, so it ends at the same colon
    obtain ⟨hsame, hrest⟩ := List.append_inj hwhole (by rw [← hs, List.length_map])
    subst hsame
    refine ⟨by simpa using hrest.symm, fun r' => ?_⟩
    have hcut' : Text.cut (· == ':') (s ++ ':' :: r') = some (s, r') :=
      cut_beq_eq_some.2 ⟨hcolon, rfl⟩
    simp only [hcut', Option.bind_eq_bind, Option.bind_some, hfirst, if_pos hname, hs,
      Option.pure_def]
  · cases h

/-! ## User information -/

/-- Whether each character of a text stands for itself among credentials. -/
def IsPlainInfo (s : List Char) : Prop := ∀ c ∈ s, plainInUserInfo c = true

theorem plainInUserInfo_hexDigit : ∀ n < 128, (hexValue (Char.ofNat n)).isSome →
    plainInUserInfo (Char.ofNat n) = true := by
  decide

theorem plainInUserInfo_low : ∀ n < 0x21, plainInUserInfo (Char.ofNat n) = false := by
  decide

theorem isPlainInfo_percentEncode (s : List Char) :
    IsPlainInfo (percentEncode plainInUserInfo s) := by
  intro c hc
  by_contra hplain
  have hkeep : plainInUserInfo c = false := by simpa using hplain
  refine not_mem_percentEncode hkeep ?_ ?_ s hc
  · rintro rfl
    exact absurd hkeep (by decide)
  · cases hh : hexValue c with
    | none => rfl
    | some n =>
      have hlow : c.toNat < 128 := by
        by_contra hhigh
        have hnone : hexValue c = none := by
          unfold hexValue
          rw [if_neg (by omega), if_neg (by omega), if_neg (by omega)]
        rw [hnone] at hh
        cases hh
      have hdigit := plainInUserInfo_hexDigit c.toNat hlow
      rw [Char.ofNat_toNat, hh, hkeep] at hdigit
      cases hdigit rfl

theorem isSolid_of_plain {c : Char} (h : plainInUserInfo c = true) : IsSolid c := by
  by_contra hlow
  have hfalse := plainInUserInfo_low c.toNat (by unfold IsSolid at hlow; omega)
  rw [Char.ofNat_toNat, h] at hfalse
  cases hfalse

theorem IsPlainInfo.not_mem {s : List Char} (h : IsPlainInfo s) {x : Char}
    (hx : plainInUserInfo x = false) : x ∉ s := by
  intro hs
  rw [h x hs] at hx
  cases hx

def namePassword (info : List Char) :
    List Char × List Char := (Text.cut (· == ':') info).getD (info, [])

def hostText? (special : Bool) (s : List Char) : Option (List Char) :=
  if special then Host.special? s else Host.general? s

/-- Reads what is left of an authority without its user information, and what follows it. -/
def placed? (special : Bool) (implied : Option Nat) (scheme : List Char)
    (who : List Char × List Char) (place rest : List Char) : Option Url := do
  let host ← hostText? special (splitPort false place).1
  let (port, more) ← port? implied (splitPort false place).2
  let (path, query, fragment) := splitTail (more ++ rest)
  pure (assemble special scheme who.1 who.2 host port
    (Path.resolve [] (Path.encoded special path)) query fragment)

theorem hostText?_nil (special : Bool) : hostText? special [] = none := by
  cases special
  · rfl
  · decide +kernel

theorem bracketed?_ne_nil {s host : List Char} (h : Host.bracketed? s = some host) : host ≠ [] := by
  unfold Host.bracketed? at h
  split at h
  · split at h
    · obtain ⟨groups, -, rfl⟩ := Option.map_eq_some_iff.1 h
      exact List.cons_ne_nil _ _
    · cases h
  · cases h

theorem hostText?_ne_nil {special : Bool} {s host : List Char}
    (h : hostText? special s = some host) : host ≠ [] := by
  unfold hostText? at h
  split at h
  · unfold Host.special? at h
    split at h
    · exact bracketed?_ne_nil h
    · simp only [Option.bind_eq_bind, Option.bind_eq_some_iff] at h
      obtain ⟨decoded, -, domain, -, h⟩ := h
      split at h
      · cases h
      · next hdomain =>
        split at h
        · obtain ⟨address, -, rfl⟩ := Option.map_eq_some_iff.1 h
          simp [Ipv4.render, String.intercalate_cons_of_ne_nil]
        · cases h
          exact hdomain
  · unfold Host.general? at h
    split at h
    · exact bracketed?_ne_nil h
    · split at h
      · cases h
      · next hs =>
        cases h
        have hlength := length_le_percentEncode plainInHost s
        have hpos : 0 < s.length := List.length_pos_iff.2 fun he => hs (.inl he)
        exact List.length_pos_iff.1 (Nat.lt_of_lt_of_le hpos hlength)

section

variable {special : Bool} {implied : Option Nat} {scheme : List Char}

theorem parseAuthority?_eq (s : List Char) : parseAuthority? special implied scheme s =
    placed? special implied scheme (namePassword (splitUserInfo (splitAuthority special s).1).1)
      (splitUserInfo (splitAuthority special s).1).2 (splitAuthority special s).2 := by
  cases special <;> rfl

theorem placed?_eq_some {who : List Char × List Char} {place rest : List Char} {u : Url}
    (h : placed? special implied scheme who place rest = some u) :
    u.username.toList = percentEncode plainInUserInfo who.1 ∧
    u.password.toList = percentEncode plainInUserInfo who.2 ∧
      placed? special implied scheme ([], []) place rest = some u.withoutCredentials := by
  unfold placed? at h ⊢
  simp only [Option.bind_eq_bind, Option.bind_eq_some_iff] at h ⊢
  obtain ⟨host, hhost, p, hport, h⟩ := h
  cases h
  refine ⟨String.toList_ofList, String.toList_ofList, host, hhost, p, hport, rfl⟩

theorem placed?_nil (who : List Char × List Char) (rest : List Char) :
    placed? special implied scheme who [] rest = none := by
  have hempty : (splitPort false []).1 = [] := rfl
  rw [placed?, hempty, hostText?_nil]
  rfl

def isInside (special : Bool) (c : Char) :
    Bool := !(c == '/' || c == '?' || c == '#' || (special && c == '\\'))

theorem splitAuthority_append {a : List Char} (ha : ∀ c ∈ a, isInside special c = true)
    (b : List Char) :
    splitAuthority special (a ++ b) =
      (a ++ (splitAuthority special b).1, (splitAuthority special b).2) :=
  Prod.ext (List.takeWhile_append_of_pos ha) (List.dropWhile_append_of_pos ha)

theorem splitUserInfo_of_not_mem {s : List Char} (h : '@' ∉ s) : splitUserInfo s = ([], s) := by
  rw [splitUserInfo, if_neg (by simpa using h)]

theorem splitUserInfo_append (a : List Char) {b : List Char} (h : '@' ∉ b) :
    splitUserInfo (a ++ '@' :: b) = (a, b) := by
  have hb : ∀ c ∈ b.reverse, (decide (c ≠ '@')) = true := by
    intro c hc
    have hne : c ≠ '@' := fun he => h (he ▸ List.mem_reverse.1 hc)
    simpa using hne
  rw [splitUserInfo, if_pos (by simp)]
  have hreverse : (a ++ '@' :: b).reverse = b.reverse ++ '@' :: a.reverse := by simp
  rw [hreverse, List.dropWhile_append_of_pos hb, List.takeWhile_append_of_pos hb]
  simp

/-- A later at sign ends it instead, and the earlier one is part of it. -/
theorem splitUserInfo_later (info : List Char) {a : List Char} (h : '@' ∈ a) :
    ∃ more, (splitUserInfo (info ++ '@' :: a)).1 = info ++ '@' :: more := by
  obtain ⟨back, front, hreverse, hlast⟩ := List.eq_append_cons_of_mem (List.mem_reverse.2 h)
  have ha : a = front.reverse ++ '@' :: back.reverse := by
    rw [← List.reverse_reverse a, hreverse]
    simp
  have hlater : info ++ '@' :: a = (info ++ '@' :: front.reverse) ++ '@' :: back.reverse := by
    rw [ha]
    simp
  refine ⟨front.reverse, ?_⟩
  rw [hlater, splitUserInfo_append _ (by simpa using hlast)]

theorem namePassword_append {a : List Char} (ha : ':' ∉ a) (b : List Char) :
    a <+: (namePassword (a ++ b)).1 := by
  unfold namePassword
  cases hb : Text.cut (· == ':') b with
  | none =>
    have hnone : Text.cut (· == ':') (a ++ b) = none := by
      refine cut_beq_eq_none.2 ?_
      simp [ha, cut_beq_eq_none.1 hb]
    rw [hnone]
    exact List.prefix_append a b
  | some p =>
    obtain ⟨hbefore, hwhole⟩ := cut_beq_eq_some.1 hb
    have hcut : Text.cut (· == ':') (a ++ p.1 ++ ':' :: p.2) = some (a ++ p.1, p.2) := by
      refine cut_beq_eq_some.2 ⟨?_, rfl⟩
      simp [ha, hbefore]
    rw [hwhole, ← List.append_assoc, hcut]
    exact List.prefix_append a p.1

/-- Of credentials with an at sign after them, the name or the password is longer than it was. -/
theorem length_lt_namePassword {u : Url} (hname : IsPlainInfo u.username.toList) (s : List Char) :
    u.username.toList.length < (namePassword (u.infoText ++ '@' :: s)).1.length ∨
      u.password.toList.length < (namePassword (u.infoText ++ '@' :: s)).2.length := by
  have hcolon : ':' ∉ u.username.toList := hname.not_mem (by decide)
  unfold infoText
  by_cases hp : u.password = ""
  · left
    have hsign : ':' ∉ u.username.toList ++ ['@'] := by simp [hcolon]
    have hlead := namePassword_append hsign s
    have hlength := hlead.length_le
    rw [List.length_append, List.length_singleton, List.append_assoc,
      List.singleton_append] at hlength
    rw [if_pos hp, List.append_nil]
    omega
  · right
    have hcut : Text.cut (· == ':') (u.username.toList ++ ':' :: (u.password.toList ++ '@' :: s)) =
        some (u.username.toList, u.password.toList ++ '@' :: s) := cut_beq_eq_some.2 ⟨hcolon, rfl⟩
    rw [if_neg hp, List.append_assoc, List.cons_append, namePassword, hcut]
    simp only [Option.getD_some, List.length_append, List.length_cons]
    omega

theorem mem_infoText {u : Url} (hname : IsPlainInfo u.username.toList)
    (hpass : IsPlainInfo u.password.toList) {c : Char} (hc : c ∈ u.infoText ++ ['@']) :
    plainInUserInfo c = true ∨ c = ':' ∨ c = '@' := by
  unfold infoText at hc
  rcases List.mem_append.1 hc with hc | hc
  · rcases List.mem_append.1 hc with hc | hc
    · exact .inl (hname c hc)
    · split at hc
      · cases hc
      · rcases List.mem_cons.1 hc with rfl | hc
        · exact .inr (.inl rfl)
        · exact .inl (hpass c hc)
  · exact .inr (.inr (List.mem_singleton.1 hc))

theorem isSolid_of_mem_infoText {u : Url} (hname : IsPlainInfo u.username.toList)
    (hpass : IsPlainInfo u.password.toList) : ∀ c ∈ u.infoText ++ ['@'], IsSolid c := by
  intro c hc
  rcases mem_infoText hname hpass hc with hplain | rfl | rfl
  · exact isSolid_of_plain hplain
  · unfold IsSolid; decide
  · unfold IsSolid; decide

/-- Credentials and the at sign after them do not end an authority. -/
theorem isInside_of_mem_infoText {u : Url} (hname : IsPlainInfo u.username.toList)
    (hpass : IsPlainInfo u.password.toList) :
    ∀ c ∈ u.infoText ++ ['@'], isInside special c = true := by
  intro c hc
  rcases mem_infoText hname hpass hc with hplain | rfl | rfl
  · have hne : c ≠ '/' ∧ c ≠ '?' ∧ c ≠ '#' ∧ c ≠ '\\' := by
      refine ⟨?_, ?_, ?_, ?_⟩ <;> rintro rfl <;> exact absurd hplain (by decide)
    simp [isInside, hne]
  · cases special <;> decide
  · cases special <;> decide

/-- A URL that is read from its credentials and what follows them is read from what follows without
them. -/
theorem parseAuthority?_withoutInfo {u : Url} (hname : IsPlainInfo u.username.toList)
    (hpass : IsPlainInfo u.password.toList) {t : List Char}
    (h : parseAuthority? special implied scheme (u.infoText ++ '@' :: t) = some u) :
    parseAuthority? special implied scheme t = some u.withoutCredentials ∧
      ∀ c ∈ t.head?, isInside special c = true := by
  have hinside : ∀ c ∈ u.infoText ++ ['@'], isInside special c = true :=
    isInside_of_mem_infoText hname hpass
  have hsplit := splitAuthority_append hinside t
  rw [List.append_assoc, List.append_assoc, List.singleton_append, List.singleton_append] at hsplit
  rw [parseAuthority?_eq, hsplit] at h
  by_cases hat : '@' ∈ (splitAuthority special t).1
  · -- the credentials would go on to a later at sign, and be longer than they are
    obtain ⟨more, hmore⟩ := splitUserInfo_later u.infoText hat
    obtain ⟨husername, hpassword, -⟩ := placed?_eq_some h
    rw [hmore] at husername hpassword
    have hlong := length_lt_namePassword hname more
    rw [husername, hpassword] at hlong
    rcases hlong with hlong | hlong
    · exact absurd (length_le_percentEncode _ _) (Nat.not_le.2 hlong)
    · exact absurd (length_le_percentEncode _ _) (Nat.not_le.2 hlong)
  · simp only at h
    rw [splitUserInfo_append _ hat] at h
    obtain ⟨-, -, hplaced⟩ := placed?_eq_some h
    constructor
    · rw [parseAuthority?_eq, splitUserInfo_of_not_mem hat]
      exact hplaced
    · intro c hc
      by_contra hend
      obtain ⟨t, rfl⟩ := List.head?_eq_some_iff.1 hc
      have hnone : (splitAuthority special (c :: t)).1 = [] := List.takeWhile_cons_of_neg hend
      simp only [hnone] at hplaced
      rw [placed?_nil] at hplaced
      cases hplaced

end

/-! ## Reading again -/

def isSlash (c : Char) : Bool := c == '/' || c == '\\'

def afterScheme? (scheme rest : List Char) : Option Url :=
  match schemeKind (String.ofList scheme) with
  | .special implied => parseAuthority? true implied scheme (rest.dropWhile isSlash)
  | .file =>
    match rest with
    | a :: b :: r => if isSlash a && isSlash b then parseFile? r else none
    | _ => none
  | .other => (after? "//" rest).bind (parseAuthority? false none scheme)

theorem parse?_eq (text : String) :
    parse? text = (scheme? (clean text.toList)).bind fun p => afterScheme? p.1 p.2 := rfl

/-- What is read as one URL has its scheme, a host, and credentials that stand for themselves. -/
structure IsReadFrom (u : Url) (scheme : List Char) : Prop where
  scheme : u.scheme.toList = scheme
  host : u.host ≠ ""
  username : IsPlainInfo u.username.toList
  password : IsPlainInfo u.password.toList

theorem isReadFrom_of_parseAuthority? {special : Bool} {implied : Option Nat} {scheme s : List Char}
    {u : Url} (h : parseAuthority? special implied scheme s = some u) : u.IsReadFrom scheme := by
  rw [parseAuthority?_eq] at h
  obtain ⟨husername, hpassword, -⟩ := placed?_eq_some h
  unfold placed? at h
  simp only [Option.bind_eq_bind, Option.bind_eq_some_iff] at h
  obtain ⟨host, hhost, p, -, h⟩ := h
  refine ⟨?_, ?_, ?_, ?_⟩
  · cases h
    exact String.toList_ofList
  · cases h
    exact mt String.ofList_eq_empty_iff.1 (hostText?_ne_nil hhost)
  · rw [husername]
    exact isPlainInfo_percentEncode _
  · rw [hpassword]
    exact isPlainInfo_percentEncode _

theorem of_parseFile? {s : List Char} {u : Url} (h : parseFile? s = some u) :
    u.scheme = "file" ∧ u.host ≠ "" ∧ u.username = "" ∧ u.password = "" := by
  unfold parseFile? at h
  simp only [Option.bind_eq_bind, Option.pure_def] at h
  split at h
  · cases h
  · obtain ⟨host, hhost, h⟩ := Option.bind_eq_some_iff.1 h
    split at h
    · cases h
    · obtain ⟨segments, -, h⟩ := Option.bind_eq_some_iff.1 h
      cases h
      refine ⟨rfl, ?_, rfl, rfl⟩
      exact mt String.ofList_eq_empty_iff.1 (@hostText?_ne_nil true _ _ hhost)

theorem eq_file_of_schemeKind {scheme : String} (h : schemeKind scheme = .file) :
    scheme = "file" := by
  unfold schemeKind at h
  split at h
  · cases h
  · split at h
    · cases h
    · split at h
      · cases h
      · split at h
        · assumption
        · cases h

theorem isReadFrom_of_afterScheme? {scheme rest : List Char} {u : Url}
    (h : afterScheme? scheme rest = some u) : u.IsReadFrom scheme := by
  unfold afterScheme? at h
  split at h
  · exact isReadFrom_of_parseAuthority? h
  · next hfile =>
    split at h
    · split at h
      · obtain ⟨hscheme, hhost, husername, hpassword⟩ := of_parseFile? h
        refine ⟨?_, hhost, ?_, ?_⟩
        · rw [hscheme, ← eq_file_of_schemeKind hfile, String.toList_ofList]
        · rw [husername]
          exact fun c hc => nomatch hc
        · rw [hpassword]
          exact fun c hc => nomatch hc
      · cases h
    · cases h
  · obtain ⟨s, -, h⟩ := Option.bind_eq_some_iff.1 h
    exact isReadFrom_of_parseAuthority? h

theorem isSolid_toLower :
    ∀ n < 128, ((Char.ofNat n).isAlphanum || Char.ofNat n == '+' || Char.ofNat n == '-' ||
    Char.ofNat n == '.') = true → 0x20 < (Char.ofNat n).toLower.toNat := by decide

theorem toNat_lt_of_isSchemeChar {c : Char}
    (h : (c.isAlphanum || c == '+' || c == '-' || c == '.') = true) : c.toNat < 128 := by
  unfold Char.isAlphanum Char.isAlpha Char.isUpper Char.isLower Char.isDigit at h
  simp only [Bool.or_eq_true, Bool.and_eq_true, decide_eq_true_eq, beq_iff_eq,
    UInt32.le_iff_toNat_le, Char.toNat_val] at h
  rcases h with ((h | rfl) | rfl) | rfl
  · have h : (65 ≤ c.toNat ∧ c.toNat ≤ 90 ∨ 97 ≤ c.toNat ∧ c.toNat ≤ 122) ∨ 48 ≤ c.toNat ∧
        c.toNat ≤ 57 := h
    omega
  all_goals decide

theorem isSolid_of_scheme? {s scheme rest : List Char} (h : scheme? s = some (scheme, rest)) :
    ∀ c ∈ scheme, IsSolid c := by
  unfold scheme? at h
  simp only [Option.bind_eq_bind, Option.bind_eq_some_iff] at h
  obtain ⟨⟨name, rest'⟩, -, first, -, h⟩ := h
  simp only at h
  split at h
  · next hname =>
    obtain ⟨rfl, -⟩ : name.map Char.toLower = scheme ∧ rest' = rest := by simpa using h
    intro c hc
    obtain ⟨d, hd, rfl⟩ := List.mem_map.1 hc
    have hchar := List.all_eq_true.1 hname.2 d hd
    have hsolid := isSolid_toLower d.toNat (toNat_lt_of_isSchemeChar hchar)
    rw [Char.ofNat_toNat] at hsolid
    exact hsolid hchar
  · cases h

theorem dropWhile_isSlash {s : List Char} (h : ∀ c ∈ s.head?, isInside true c = true) :
    ('/' :: '/' :: s).dropWhile isSlash = s := by
  have hslashes : ∀ c ∈ ['/', '/'], isSlash c = true := by simp [isSlash]
  refine dropWhile_append hslashes fun c hc => ?_
  have hinside := h c hc
  simp only [isInside, Bool.not_eq_true', Bool.or_eq_false_iff, Bool.true_and] at hinside
  simp [isSlash, hinside]

/-- What follows a scheme with credentials is read alike without them. -/
theorem afterScheme?_withoutInfo {u : Url} {t : List Char} (hc : u.hasCredentials = true)
    (h : afterScheme? u.scheme.toList ('/' :: '/' :: (u.infoText ++ '@' :: t)) = some u) :
    afterScheme? u.scheme.toList ('/' :: '/' :: t) = some u.withoutCredentials := by
  obtain ⟨-, -, hname, hpass⟩ := isReadFrom_of_afterScheme? h
  unfold afterScheme? at h ⊢
  cases hkind : schemeKind (String.ofList u.scheme.toList) with
  | special implied =>
    have hstart : ∀ c ∈ (u.infoText ++ '@' :: t).head?, isInside true c = true := by
      intro c hc
      refine isInside_of_mem_infoText hname hpass c (List.mem_of_mem_head? ?_)
      rw [← List.singleton_append, ← List.append_assoc] at hc
      rwa [List.head?_append_of_ne_nil _ (by simp)] at hc
    rw [hkind] at h
    simp only [dropWhile_isSlash hstart] at h
    obtain ⟨hread, hslash⟩ := parseAuthority?_withoutInfo hname hpass h
    simp only [dropWhile_isSlash hslash, hread]
  | file =>
    rw [hkind] at h
    have hfile : parseFile? (u.infoText ++ '@' :: t) = some u := h
    obtain ⟨-, -, husername, hpassword⟩ := of_parseFile? hfile
    simp [hasCredentials, husername, hpassword] at hc
  | other =>
    rw [hkind] at h
    have hread : parseAuthority? false none u.scheme.toList (u.infoText ++ '@' :: t) = some u := h
    exact (parseAuthority?_withoutInfo hname hpass hread).1

theorem isSolid_schemeText {s : List Char} (h : ∀ c ∈ s, IsSolid c) :
    ∀ c ∈ s ++ [':', '/', '/'], IsSolid c := by
  intro c hc
  rcases List.mem_append.1 hc with hc | hc
  · exact h c hc
  · simp only [List.mem_cons, List.not_mem_nil, or_false] at hc
    unfold IsSolid
    rcases hc with rfl | rfl | rfl <;> decide

section

variable {u : Url}

/-- The text of a URL is cleaned behind its credentials. -/
theorem clean_render (hc : u.hasCredentials = true) (hscheme : ∀ c ∈ u.scheme.toList, IsSolid c)
    (hname : IsPlainInfo u.username.toList) (hpass : IsPlainInfo u.password.toList) :
    clean u.render.toList =
      u.scheme.toList ++ ':' :: '/' :: '/' :: (u.infoText ++ '@' :: cleanEnd u.placeText) := by
  have hsolid : ∀ c ∈ u.scheme.toList ++ [':', '/', '/'] ++ (u.infoText ++ ['@']), IsSolid c := by
    intro c hc
    rcases List.mem_append.1 hc with hc | hc
    · exact isSolid_schemeText hscheme c hc
    · exact isSolid_of_mem_infoText hname hpass c hc
  have htext : u.render.toList = u.scheme.toList ++ [':', '/', '/'] ++
      (u.infoText ++ ['@']) ++ u.placeText := by
    rw [render_of_hasCredentials hc]
    simp
  rw [htext, clean_append hsolid (by simp)]
  simp

theorem clean_render_withoutCredentials (hscheme : ∀ c ∈ u.scheme.toList, IsSolid c) :
    clean u.withoutCredentials.render.toList = u.scheme.toList ++ ':' :: '/' :: '/' ::
      cleanEnd u.placeText := by
  have htext :
      u.withoutCredentials.render.toList = u.scheme.toList ++ [':', '/', '/'] ++ u.placeText := by
    rw [render_withoutCredentials]
    simp
  rw [htext, clean_append (isSolid_schemeText hscheme) (by simp)]
  simp

/-- If a URL with credentials is read again as it is shown, so is the URL without them. -/
theorem parse?_withoutCredentials (hc : u.hasCredentials = true) (h : parse? u.render = some u) :
    parse? u.withoutCredentials.render = some u.withoutCredentials := by
  rw [parse?_eq] at h
  obtain ⟨⟨scheme, rest⟩, hscheme, hrest⟩ := Option.bind_eq_some_iff.1 h
  obtain ⟨rfl, -, hname, hpass⟩ := isReadFrom_of_afterScheme? hrest
  have hsolid := isSolid_of_scheme? hscheme
  -- both texts have the scheme, and what is left of them is cleaned at the same end
  rw [clean_render hc hsolid hname hpass] at hscheme
  obtain ⟨rfl, hscheme'⟩ := scheme?_append hscheme
  rw [parse?_eq, clean_render_withoutCredentials hsolid, hscheme', Option.bind_some]
  exact afterScheme?_withoutInfo hc hrest

end

end FetchPlan.Url
