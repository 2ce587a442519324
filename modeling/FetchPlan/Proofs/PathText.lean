import FetchPlan.Files.Path
import FetchPlan.Proofs.CutText

/-!
The text of a path and the names it is made of. Cutting at slashes undoes putting names together
(`parts_text`), and no part of a path holds a slash (`noSlash_of_mem_parts`). Two absolute paths
are the same when they have the same components: those of a relative path are added to those of
the path that it is read from (`components_joinText`), and those of the text of a place are its
names (`components_text_names`).
-/
namespace FetchPlan.Files

/-- A name that may stand in a directory. -/
structure IsName (name : String) : Prop where
  step : isStill name = false
  noParent : name ≠ ".."
  noSlash : '/' ∉ name.toList

instance (name : String) : Decidable (IsName name) :=
  decidable_of_iff (isStill name = false ∧ name ≠ ".." ∧ '/' ∉ name.toList)
    ⟨fun ⟨hs, hp, hn⟩ => ⟨hs, hp, hn⟩, fun ⟨hs, hp, hn⟩ => ⟨hs, hp, hn⟩⟩

theorem isName_of_dash {name : String} (hdash : '-' ∈ name.toList) (hslash : '/' ∉ name.toList) :
    IsName name := by
  have hne {s : String} (hs : '-' ∉ s.toList) : name ≠ s := by
    rintro rfl
    exact hs hdash
  have hempty : name ≠ "" := hne (by decide)
  have hpoint : name ≠ "." := hne (by decide)
  exact ⟨by simp [isStill, hempty, hpoint], hne (by decide), hslash⟩

/-! ## Parts of a path -/

theorem noSlash_of_mem_parts {path part : String} (h : part ∈ parts path) : '/' ∉ part.toList := by
  obtain ⟨f, hf, rfl⟩ := List.mem_map.1 h
  intro hs
  have := Text.sep_of_mem_fields hf '/' (by simpa using hs)
  simp at this

theorem parts_append_slash (a b : String) : parts (a ++ "/" ++ b) = parts a ++ parts b := by
  have h : (a ++ "/" ++ b).toList = a.toList ++ '/' :: b.toList := by simp
  rw [parts, h, Text.fields_append_cons rfl, List.map_append, parts, parts]

theorem parts_intercalate {p : Place} (hp : p ≠ []) (h : ∀ name ∈ p, '/' ∉ name.toList) :
    parts ("/".intercalate p) = p := by
  have hf : ∀ f ∈ p.map String.toList, ∀ x ∈ f, (x == '/') = false := by
    intro f hf x hx
    obtain ⟨name, hn, rfl⟩ := List.mem_map.1 hf
    have : x ≠ '/' := fun he => h name hn (he ▸ hx)
    simpa using this
  rw [parts, String.toList_intercalate]
  show (Text.fields (· == '/') (['/'].intercalate (p.map String.toList))).map String.ofList = p
  rw [Text.fields_intercalate rfl (by simpa using hp) hf]
  simp [Function.comp_def]

theorem parts_inj {a b : String} (h : parts a = parts b) : a = b := by
  have hfields : Text.fields (· == '/') a.toList = Text.fields (· == '/') b.toList :=
    (List.map_inj_right fun _ _ hl => String.ofList_inj.1 hl).1 h
  rw [← String.toList_inj, ← Text.intercalate_fields '/' a.toList, hfields, Text.intercalate_fields]

theorem isAbsolute_text (p : Place) : isAbsolute (Place.text p) = true := by
  simp [isAbsolute, Place.text]

theorem parts_text {p : Place} (hp : p ≠ []) (h : ∀ name ∈ p, '/' ∉ name.toList) :
    parts (Place.text p) = "" :: p := by
  have htext : Place.text p = "" ++ "/" ++ "/".intercalate p := by simp [Place.text]
  rw [htext, parts_append_slash, parts_intercalate hp h]
  rfl

/-! ## Components of a path -/

/-- The parts of a path that do not stay where they are. -/
def components (path : String) : List String := (parts path).filter (!isStill ·)

theorem components_append_slash (a b : String) :
    components (a ++ "/" ++ b) = components a ++ components b := by
  rw [components, parts_append_slash, List.filter_append, components, components]

/-- A relative path adds its components to those of the path that it is read from. -/
theorem components_joinText {base path : String} (h : isAbsolute path = false) :
    components (joinText base path) = components base ++ components path := by
  unfold joinText
  rw [if_neg (by simp [h])]
  split
  · next hbase =>
    rcases hbase with rfl | hslash
    · simp [components, parts, Text.fields, isStill]
    · obtain ⟨front, hfront⟩ := List.getLast?_eq_some_iff.1 hslash
      have hbase : base = String.ofList front ++ "/" ++ "" := by
        rw [← String.toList_inj]
        simpa using hfront
      have hpath : base ++ path = String.ofList front ++ "/" ++ path := by
        rw [hbase, String.append_empty]
      have hempty : components "" = [] := rfl
      rw [hpath, components_append_slash, hbase, components_append_slash, hempty, List.append_nil]
  · exact components_append_slash base path

theorem isAbsolute_joinText {base : String} (h : isAbsolute base = true) (path : String) :
    isAbsolute (joinText base path) = true := by
  unfold joinText
  split
  · assumption
  · obtain ⟨c, r, hbase⟩ : ∃ c r, base.toList = c :: r := by
      cases hlist : base.toList with
      | nil => simp [isAbsolute, hlist] at h
      | cons c r => exact ⟨c, r, rfl⟩
    have hhead : (c == '/') = true := by simpa [isAbsolute, hbase] using h
    split
    · simpa [isAbsolute, hbase] using hhead
    · simpa [isAbsolute, hbase] using hhead

theorem joinText_absolute {base path : String} (h : isAbsolute path = true) :
    joinText base path = path := if_pos h

/-- With a relative path after it, a path is absolute as it was before. -/
theorem isAbsolute_joinText_relative (base : String) {path : String} (h : isAbsolute path = false) :
    isAbsolute (joinText base path) = isAbsolute base := by
  unfold joinText
  rw [if_neg (by simp [h])]
  by_cases hbase : base = ""
  · subst hbase
    rw [if_pos (.inl rfl), String.empty_append, h]
    rfl
  · obtain ⟨c, r, hlist⟩ := List.exists_cons_of_ne_nil (by simpa using hbase : base.toList ≠ [])
    split <;> simp [isAbsolute, hlist]

section Names

variable {p : Place}

theorem named_concat {name : String} (h : ∀ m ∈ p, IsName m) (hn : IsName name) :
    ∀ m ∈ p ++ [name], IsName m := by
  intro m hm
  rcases List.mem_append.1 hm with hm | hm
  · exact h m hm
  · exact List.mem_singleton.1 hm ▸ hn

theorem filter_names (h : ∀ name ∈ p, IsName name) : p.filter (!isStill ·) = p := by
  rw [List.filter_eq_self]
  intro name hn
  simp [(h name hn).step]

theorem components_intercalate (h : ∀ name ∈ p, '/' ∉ name.toList) :
    components ("/".intercalate p) = p.filter (!isStill ·) := by
  by_cases hp : p = []
  · subst hp
    rfl
  · rw [components, parts_intercalate hp h]

theorem components_text (h : ∀ name ∈ p, '/' ∉ name.toList) :
    components (Place.text p) = p.filter (!isStill ·) := by
  have htext : Place.text p = "" ++ "/" ++ "/".intercalate p := by simp [Place.text]
  rw [htext, components_append_slash, components_intercalate h]
  rfl

theorem components_intercalate_names (h : ∀ name ∈ p, IsName name) :
    components ("/".intercalate p) = p := by
  rw [components_intercalate fun name hn => (h name hn).noSlash, filter_names h]

theorem components_text_names (h : ∀ name ∈ p, IsName name) : components (Place.text p) = p := by
  rw [components_text fun name hn => (h name hn).noSlash, filter_names h]

theorem components_name {name : String} (h : IsName name) : components name = [name] := by
  have hnames : ∀ m ∈ [name], IsName m := by simpa using h
  simpa using components_intercalate_names hnames

theorem text_inj {q : Place} (hp : ∀ name ∈ p, IsName name) (hq : ∀ name ∈ q, IsName name) :
    Place.text p = Place.text q ↔ p = q := by
  refine ⟨fun h => ?_, congrArg Place.text⟩
  rw [← components_text_names hp, h, components_text_names hq]

theorem isAbsolute_of_noSlash {name : String} (h : '/' ∉ name.toList) :
    isAbsolute name = false := by
  unfold isAbsolute
  cases hname : name.toList with
  | nil => rfl
  | cons c r =>
    have hc : c ≠ '/' := by
      rintro rfl
      exact h (by simp [hname])
    simpa using hc

theorem isAbsolute_intercalate (h : ∀ name ∈ p, IsName name) :
    isAbsolute ("/".intercalate p) = false := by
  cases p with
  | nil => rfl
  | cons name p =>
    have hn := h name List.mem_cons_self
    have hne : name ≠ "" := by
      rintro rfl
      exact absurd hn.step (by decide)
    obtain ⟨c, r, hname⟩ := List.exists_cons_of_ne_nil (by simpa using hne : name.toList ≠ [])
    have hrelative := isAbsolute_of_noSlash hn.noSlash
    cases p <;> simpa [isAbsolute, String.toList_intercalate, List.intercalate, hname]
      using hrelative

/-- No part of the text of a place is a point or two points. -/
theorem parts_text_ne (h : ∀ name ∈ p, IsName name) :
    ∀ part ∈ parts (Place.text p), part ≠ "." ∧ part ≠ ".." := by
  intro part hpart
  by_cases hp : p = []
  · subst hp
    have hempty : part = "" := by simpa [Place.text, parts, Text.fields] using hpart
    rw [hempty]
    decide
  · rw [parts_text hp fun name hn => (h name hn).noSlash] at hpart
    rcases List.mem_cons.1 hpart with rfl | hpart
    · decide
    · have hname := h part hpart
      refine ⟨?_, hname.noParent⟩
      rintro rfl
      exact absurd hname.step (by decide)

end Names

/-! ## Places without regard to links -/

theorem foldl_stepPlainly_filter (ps : List String) (p : Place) :
    (ps.filter (!isStill ·)).foldl stepPlainly p = ps.foldl stepPlainly p := by
  induction ps generalizing p with
  | nil => rfl
  | cons part ps ih =>
    by_cases hs : isStill part = true
    · have hstep : stepPlainly p part = p := if_pos hs
      rw [List.filter_cons_of_neg (by simp [hs]), List.foldl_cons, hstep, ih]
    · rw [List.filter_cons_of_pos (by simp [hs]), List.foldl_cons, List.foldl_cons, ih]

theorem foldl_stepPlainly_names (rest : List String) (p : Place) (h : ∀ name ∈ rest, IsName name) :
    rest.foldl stepPlainly p = p ++ rest := by
  induction rest generalizing p with
  | nil => simp
  | cons name rest ih =>
    have hn := h name List.mem_cons_self
    have hstep : stepPlainly p name = p ++ [name] := by simp [stepPlainly, hn.step, hn.noParent]
    rw [List.foldl_cons, hstep, ih _ fun m hm => h m (List.mem_cons_of_mem _ hm), List.append_assoc]
    rfl

theorem placePlainly_text {p : Place} (h : ∀ name ∈ p, IsName name) (base : Place) :
    placePlainly base (Place.text p) = p := by
  rw [placePlainly, if_pos (isAbsolute_text p), ← foldl_stepPlainly_filter]
  show (components (Place.text p)).foldl stepPlainly [] = p
  rw [components_text_names h, foldl_stepPlainly_names p [] h]
  rfl

end FetchPlan.Files
