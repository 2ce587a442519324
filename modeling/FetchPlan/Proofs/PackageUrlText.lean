import FetchPlan.Artifact
import FetchPlan.Proofs.CutText
import FetchPlan.Proofs.EncodedText

/-!
The text of a package URL says everything about it. No part of the text holds the sign that ends
it, so the text is cut where it was put together, and each part is decoded to what was encoded
(`parse?_render`). The keys of qualifiers are not encoded: that they hold no such sign is kept by
every step by which a package URL is made (`Built.readable`). Hence two package URLs with one text
are the same, and so are those of two artifacts (`render_injective`).

What is proved of package URLs that are made by setting versions and qualifiers (`Built`), and of
the components of artifacts in either ecosystem. The keys that occur are lower-case letters and
underscores; names, versions and values may be any texts.
-/
namespace FetchPlan

namespace PackageUrl

def IsKey (key : String) : Prop := key ≠ "" ∧ ∀ c ∈ key.toList, c.isLower = true ∨ c = '_'

instance (key : String) : Decidable (IsKey key) :=
  @instDecidableAnd _ _ _ (List.decidableBAll (fun c => c.isLower = true ∨ c = '_') key.toList)

/-- The package URLs that are made, beginning with a name, by setting versions and qualifiers. -/
inductive Built : PackageUrl → Prop where
  | ofName (e : Ecosystem) (name : String) : Built (ofName e.purlType name)
  | withVersion {p : PackageUrl} (h : Built p) (version : Option String) :
    Built (p.withVersion version)
  | withQualifier {p : PackageUrl} (h : Built p) {key : String} (hkey : IsKey key)
    (value : String) : Built (p.withQualifier key value)

/-- Whether the parts of a package URL that are not encoded hold no sign that ends them. -/
structure Readable (p : PackageUrl) : Prop where
  type : '/' ∉ p.type.toList
  keys : ∀ q ∈ p.qualifiers, IsKey q.1

theorem mem_insertSorted {key value : String} {q : String × String} :
    ∀ {qs : List (String × String)},
    q ∈ insertSorted key value qs → q = (key, value) ∨ q ∈ qs
  | [], h => .inl (List.mem_singleton.1 h)
  | (k, v) :: qs, h => by
    unfold insertSorted at h
    split at h
    · exact List.mem_cons.1 h
    split at h
    · exact (List.mem_cons.1 h).imp_right (List.mem_cons_of_mem _)
    · rcases List.mem_cons.1 h with rfl | h
      · exact .inr List.mem_cons_self
      · exact (mem_insertSorted h).imp_right (List.mem_cons_of_mem _)

theorem Readable.withQualifier {p : PackageUrl} (h : p.Readable) {key : String} (hkey : IsKey key)
    (value : String) : (p.withQualifier key value).Readable := by
  unfold PackageUrl.withQualifier
  split
  · exact h
  · refine ⟨h.type, fun q hq => ?_⟩
    rcases mem_insertSorted hq with rfl | hq
    · exact hkey
    · exact h.keys q hq

theorem Built.readable {p : PackageUrl} (h : Built p) : p.Readable := by
  induction h with
  | ofName e name =>
    have htype : '/' ∉ e.purlType.toList := by cases e <;> decide
    exact ⟨htype, by simp [PackageUrl.ofName]⟩
  | withVersion _ version ih => exact ⟨ih.type, ih.keys⟩
  | withQualifier _ hkey value ih => exact ih.withQualifier hkey value

/-! ## Parts of the text -/

theorem not_mem_key {key : String} (h : IsKey key) {x : Char} (hx : x.isLower = false)
    (hu : x ≠ '_') : x ∉ key.toList := by
  intro hk
  rcases h.2 x hk with hl | rfl
  · rw [hx] at hl
    cases hl
  · exact hu rfl

theorem decodePart?_encode (keep : Char → Bool) (hkeep : keep '%' = false) (s : String) :
    decodePart? (Text.percentEncode keep s.toList) = some s := by
  rw [decodePart?, Text.decode?_percentEncode hkeep, Option.map_some, String.ofList_toList]

def renderQualifier (q : String × String) : List Char :=
  q.1.toList ++ '=' :: Text.percentEncode plainInValue q.2.toList

theorem renderQualifiers_cons : ∀ (mark : Char) (q : String × String) (qs : List (String × String)),
    renderQualifiers mark (q :: qs) = mark :: ['&'].intercalate ((q :: qs).map renderQualifier)
  | mark, (k, v), [] => by simp [renderQualifiers, renderQualifier]
  | mark, (k, v), q :: qs => by
    rw [renderQualifiers, renderQualifiers_cons '&' q qs]
    simp [renderQualifier, List.intercalate_cons_cons]

theorem qualifier?_render {q : String × String} (h : IsKey q.1) :
    qualifier? (renderQualifier q) = some q := by
  have hcut : Text.cut (· == '=') (renderQualifier q) =
      some (q.1.toList, Text.percentEncode plainInValue q.2.toList) := by
    exact Text.cut_beq_eq_some.2 ⟨not_mem_key h (by decide) (by decide), rfl⟩
  unfold qualifier?
  rw [hcut]
  simp only [Option.bind_eq_bind, Option.bind_some, decodePart?_encode plainInValue (by decide),
    String.ofList_toList]
  rfl

theorem mapM_qualifier? : ∀ {qs : List (String × String)}, (∀ q ∈ qs, IsKey q.1) →
    (qs.map renderQualifier).mapM qualifier? = some qs
  | [], _ => rfl
  | q :: qs, h => by
    have ih := mapM_qualifier? fun x hx => h x (List.mem_cons_of_mem q hx)
    rw [List.map_cons, List.mapM_cons, qualifier?_render (h q List.mem_cons_self), ih]
    rfl

theorem qualifiers?_render {qs : List (String × String)} (hne : qs ≠ []) (h : ∀ q ∈ qs, IsKey q.1) :
    qualifiers? (['&'].intercalate (qs.map renderQualifier)) = some qs := by
  have hfree : ∀ f ∈ qs.map renderQualifier, ∀ x ∈ f, (x == '&') = false := by
    intro f hf x hx
    obtain ⟨q, hq, rfl⟩ := List.mem_map.1 hf
    suffices x ≠ '&' by simpa using this
    rintro rfl
    rcases List.mem_append.1 hx with hk | hv
    · exact not_mem_key (h q hq) (by decide) (by decide) hk
    · rcases List.mem_cons.1 hv with he | hv
      · cases he
      · exact Text.not_mem_percentEncode (by decide) (by decide) (by decide) _ hv
  rw [qualifiers?, Text.fields_intercalate (by rfl) (by simpa using hne) hfree, mapM_qualifier? h]

def renderHead (p : PackageUrl) : List Char :=
  Text.percentEncode plainInName p.name.toList ++
    (match p.version with
    | some v => '@' :: Text.percentEncode plainInValue v.toList
    | none => [])

theorem not_mem_renderHead (p : PackageUrl) : '?' ∉ p.renderHead := by
  intro h
  rcases List.mem_append.1 h with hn | hv
  · exact Text.not_mem_percentEncode (by decide) (by decide) (by decide) _ hn
  · split at hv
    · rcases List.mem_cons.1 hv with he | hv
      · cases he
      · exact Text.not_mem_percentEncode (by decide) (by decide) (by decide) _ hv
    · cases hv

/-! ## The whole text -/

theorem cut_renderHead (p : PackageUrl) : Text.cut (· == '@') p.renderHead =
    p.version.map fun v =>
      (Text.percentEncode plainInName p.name.toList, Text.percentEncode plainInValue v.toList) := by
  have hname : '@' ∉ Text.percentEncode plainInName p.name.toList :=
    Text.not_mem_percentEncode (by decide) (by decide) (by decide) _
  unfold renderHead
  cases p.version with
  | none => simpa [Text.cut_beq_eq_none] using hname
  | some v => exact Text.cut_beq_eq_some.2 ⟨hname, rfl⟩

def ofHead? (type : String) (head : List Char) (qualifiers : List (String × String)) :
    Option PackageUrl :=
  match Text.cut (· == '@') head with
  | some (name, version) =>
    return ⟨type, ← decodePart? name, some (← decodePart? version), qualifiers⟩
  | none => return ⟨type, ← decodePart? head, none, qualifiers⟩

theorem ofHead?_render (p : PackageUrl) : ofHead? p.type p.renderHead p.qualifiers = some p := by
  have hname := decodePart?_encode plainInName (by decide) p.name
  have hcut := cut_renderHead p
  obtain ⟨type, name, version, qualifiers⟩ := p
  unfold ofHead?
  rw [hcut]
  cases version with
  | none =>
    have hhead :
        renderHead ⟨type, name, none, qualifiers⟩ = Text.percentEncode plainInName name.toList :=
      List.append_nil _
    simp only [Option.map_none, hhead, hname]
    rfl
  | some v =>
    have hversion := decodePart?_encode plainInValue (by decide) v
    simp only [Option.map_some, hname, hversion]
    rfl

theorem parseRest?_bare {type : String} {s : List Char} (h : Text.cut (· == '?') s = none) :
    parseRest? type s = ofHead? type s [] := by
  unfold parseRest?
  rw [h]
  rfl

theorem parseRest?_marked {type : String} {s head qs : List Char}
    (h : Text.cut (· == '?') s = some (head, qs)) :
    parseRest? type s = (qualifiers? qs).bind (ofHead? type head) := by
  unfold parseRest?
  rw [h]
  dsimp only
  cases qualifiers? qs with
  | none => rfl
  | some _ => rfl

theorem parseRest?_render {p : PackageUrl} (h : ∀ q ∈ p.qualifiers, IsKey q.1) :
    parseRest? p.type (p.renderHead ++ renderQualifiers '?' p.qualifiers) = some p := by
  have hfree : '?' ∉ p.renderHead := not_mem_renderHead p
  have hhead := ofHead?_render p
  cases hq : p.qualifiers with
  | nil =>
    rw [hq] at hhead
    rw [renderQualifiers, List.append_nil, parseRest?_bare (Text.cut_beq_eq_none.2 hfree), hhead]
  | cons q qs =>
    rw [hq] at h hhead
    rw [renderQualifiers_cons, parseRest?_marked (Text.cut_beq_eq_some.2 ⟨hfree, rfl⟩),
      qualifiers?_render (by simp) h, Option.bind_some, hhead]

theorem parse?_render {p : PackageUrl} (h : p.Readable) : parse? p.render = some p := by
  have htext : p.render.toList =
      "pkg:".toList ++
        (p.type.toList ++ '/' :: (p.renderHead ++ renderQualifiers '?' p.qualifiers)) := by
    rw [render, String.toList_ofList]
    obtain ⟨type, name, version, qualifiers⟩ := p
    unfold renderChars renderHead
    generalize "pkg:".toList = lead
    cases version <;> simp
  have hafter : Text.after? "pkg:" p.render.toList =
      some (p.type.toList ++ '/' :: (p.renderHead ++ renderQualifiers '?' p.qualifiers)) := by
    rw [htext]
    rfl
  have hcut : Text.cut (· == '/')
      (p.type.toList ++ '/' :: (p.renderHead ++ renderQualifiers '?' p.qualifiers)) =
      some (p.type.toList, p.renderHead ++ renderQualifiers '?' p.qualifiers) :=
    Text.cut_beq_eq_some.2 ⟨h.type, rfl⟩
  unfold parse?
  rw [hafter]
  simp only [Option.bind_eq_bind, Option.bind_some, hcut, String.ofList_toList]
  exact parseRest?_render h.keys

theorem eq_of_render_eq {p q : PackageUrl} (hp : p.Readable) (hq : q.Readable)
    (h : p.render = q.render) : p = q := by
  have hread := parse?_render hp
  rw [h, parse?_render hq] at hread
  exact (Option.some.inj hread).symm

end PackageUrl

/-! ## Components -/

def Artifact.packageUrl (e : Ecosystem) (a : Artifact) (lockedVersion : Option String) :
    PackageUrl :=
  Component.purlOfOrigin e (PackageUrl.ofName e.purlType a.package) lockedVersion a.origin

namespace Component

open PackageUrl

theorem built_purlOfOrigin (e : Ecosystem) {p : PackageUrl} (h : Built p)
    (lockedVersion : Option String) (o : Origin) : Built (purlOfOrigin e p lockedVersion o) := by
  have hchecksum : IsKey "checksum" := by decide
  have hregistry : IsKey "repository_url" := by decide
  cases o with
  | release r =>
    have hrelease := h.withVersion (some r.version)
    cases e with
    | cargo =>
      unfold purlOfOrigin
      dsimp only
      split
      · exact hrelease.withQualifier hchecksum _
      · exact (hrelease.withQualifier hchecksum _).withQualifier hregistry _
    | pip =>
      unfold purlOfOrigin
      dsimp only
      split
      · exact hrelease
      · exact hrelease.withQualifier hregistry _
  | repository r =>
    have hvcs : Built (p.withQualifier "vcs_url" r.version) := h.withQualifier (by decide) _
    cases e with
    | cargo => exact hvcs.withVersion _
    | pip => exact hvcs
  | download d => exact (h.withQualifier (by decide) d.url).withQualifier hchecksum _

theorem built_packageUrl (e : Ecosystem) (a : Artifact) (lockedVersion : Option String) :
    Built (a.packageUrl e lockedVersion) :=
  built_purlOfOrigin e (.ofName e a.package) lockedVersion a.origin

/-- The flags of an artifact leave the rest of its component as its package URL makes it. -/
theorem ofArtifact_eq (e : Ecosystem) (a : Artifact) (lockedVersion : Option String) :
    ∃ properties, ofArtifact e a lockedVersion =
      { ofPurl (a.packageUrl e lockedVersion) with properties := properties } := by
  unfold ofArtifact
  dsimp only
  split <;> split <;> exact ⟨_, rfl⟩

theorem ofArtifact_purl (e : Ecosystem) (a : Artifact) (lockedVersion : Option String) :
    (ofArtifact e a lockedVersion).purl = (a.packageUrl e lockedVersion).render := by
  obtain ⟨_, h⟩ := ofArtifact_eq e a lockedVersion
  rw [h]
  rfl

theorem parse?_ofArtifact (e : Ecosystem) (a : Artifact) (lockedVersion : Option String) :
    PackageUrl.parse? (ofArtifact e a lockedVersion).purl =
      some (a.packageUrl e lockedVersion) := by
  rw [ofArtifact_purl]
  exact parse?_render (built_packageUrl e a lockedVersion).readable

def localUrl (e : Ecosystem) (name : String) (version : Option String)
    (checkout : Option Checkout) : PackageUrl where
  type := e.purlType
  name := normalName e.purlType name
  version := version.filter (· ≠ "")
  qualifiers := (checkout.map fun c => ("vcs_url", c.vcsUrl)).toList

section Local

variable (e : Ecosystem) (name : String) (version : Option String) (checkout : Option Checkout)

theorem ofLocal_eq :
    ofLocal e name version checkout = ofPurl (localUrl e name version checkout) := by
  cases checkout with
  | none => rfl
  | some c =>
    have hvcs : c.vcsUrl ≠ "" := by simp [Checkout.vcsUrl]
    simp only [ofLocal, withQualifier, if_neg hvcs]
    rfl

theorem readable_localUrl : (localUrl e name version checkout).Readable := by
  have htype : '/' ∉ e.purlType.toList := by cases e <;> decide
  have hkey : IsKey "vcs_url" := by decide
  cases checkout with
  | none => exact ⟨htype, by simp [localUrl]⟩
  | some c => exact ⟨htype, by simpa [localUrl] using hkey⟩

theorem parse?_ofLocal :
    PackageUrl.parse? (ofLocal e name version checkout).purl =
      some (localUrl e name version checkout) := by
  rw [ofLocal_eq]
  exact parse?_render (readable_localUrl e name version checkout)

end Local

end Component

namespace PackageUrl

/-- The text of a package URL determines it: one reader recovers it from its text, so package URLs
with the same text are the same, and artifacts whose components have the same text have the same
package URL. -/
theorem render_injective :
    (∀ p, Built p → parse? p.render = some p) ∧
    (∀ p q, Built p → Built q → p.render = q.render → p = q) ∧
    ∀ (e e' : Ecosystem) (a a' : Artifact) (v v' : Option String),
      (Component.ofArtifact e a v).purl = (Component.ofArtifact e' a' v').purl →
        a.packageUrl e v = a'.packageUrl e' v' := by
  have hinjective : ∀ p q, Built p → Built q → p.render = q.render → p = q :=
    fun p q hp hq h => eq_of_render_eq hp.readable hq.readable h
  refine ⟨fun p h => parse?_render h.readable, hinjective, ?_⟩
  intro e e' a a' v v' h
  rw [Component.ofArtifact_purl, Component.ofArtifact_purl] at h
  exact hinjective _ _ (Component.built_packageUrl e a v) (Component.built_packageUrl e' a' v') h

/-- A package URL whose parts hold every sign that its text is cut at. -/
def crowded : PackageUrl :=
  (((ofName "pypi" "Grün/_a@b?c").withVersion (some "1@2?x&y=z%41")).withQualifier "vcs_url"
    "git+https://host/?a=b&c=%25#d@e").withQualifier "download_url" "ü=&"

def crowdedAgain : PackageUrl :=
  ((((ofName "pypi" "grün/-A@B?C").withQualifier "download_url" "ü=&").withQualifier
    "vcs_url" "x").withQualifier
    "vcs_url" "git+https://host/?a=b&c=%25#d@e").withVersion (some "1@2?x&y=z%41")

/-- A release without a checksum, under one of the spellings of its name. -/
def typingRelease (name : String) : Artifact :=
  ⟨name, "/out/deps/pip/x", "requirements.txt", true, false,
    .release ⟨defaultPipIndex, .sourceArchive, "4.12.2", none⟩⟩

theorem built_crowded : Built crowded :=
  (((Built.ofName .pip "Grün/_a@b?c").withVersion _).withQualifier (by decide) _).withQualifier
    (by decide) _

theorem built_crowdedAgain : Built crowdedAgain :=
  ((((Built.ofName .pip "grün/-A@B?C").withQualifier (by decide) _).withQualifier (by decide)
    _).withQualifier (by decide) _).withVersion _

theorem render_injective_crowded :
    parse? crowded.render = some crowded ∧
    crowded.render = crowdedAgain.render ∧ crowded = crowdedAgain ∧
    (Component.ofArtifact .pip (typingRelease "Typing_Extensions") none).purl =
      (Component.ofArtifact .pip (typingRelease "typing-extensions") (some "4")).purl ∧
    (typingRelease "Typing_Extensions").packageUrl .pip none =
      (typingRelease "typing-extensions").packageUrl .pip (some "4") := by
  have htext : crowded.render = crowdedAgain.render := by decide +kernel
  have hpurl : (Component.ofArtifact .pip (typingRelease "Typing_Extensions") none).purl =
      (Component.ofArtifact .pip (typingRelease "typing-extensions") (some "4")).purl := by
    decide +kernel
  exact ⟨render_injective.1 crowded built_crowded, htext,
    render_injective.2.1 crowded crowdedAgain built_crowded built_crowdedAgain htext, hpurl,
    render_injective.2.2 .pip .pip _ _ none (some "4") hpurl⟩

end PackageUrl
end FetchPlan
