import FetchPlan.Proofs.EncodedText
import FetchPlan.Proofs.JsonText
import FetchPlan.Report.Document

/-!
A report and its document are worth the same. An object without repeated keys is read as a record
in which each member is found under its name (`exists_record`), and a field that was left out is
restored by its default (`list_of_lookup`, `flag_of_lookup`). So each part of a report is read
from its object (`Report.ofJson?_toJson`), and any report from the bytes of its document
(`Report.ofBytes?_bytes`).

What is proved of every report: its document reads back as it; and of every document that is
accepted, in whatever spelling, that what is read of it is written and read again without a
change. Numbers do not occur in documents of reports (`Report.numberless_toJson`), so nothing
rests on how a number is written.
-/
namespace FetchPlan

namespace Json

/-! ## Records -/

def present (values : List (String × Option Json)) : Record :=
  values.filterMap fun (k, v) => v.map fun v => (k, v)

/-- A field that is there is found under its name, if no other one has it. -/
theorem lookup_present : ∀ {values : List (String × Option Json)},
    (values.map Prod.fst).Nodup → ∀ k : String,
    (present values).lookup k = (values.lookup k).join
  | [], _, _ => rfl
  | (key, none) :: values, h, k => by
    obtain ⟨hkey, hrest⟩ := List.nodup_cons.1 h
    have ih : (present ((key, none) :: values)).lookup k = (values.lookup k).join :=
      lookup_present hrest k
    rw [ih, List.lookup_cons]
    cases hk : k == key with
    | false => rfl
    | true =>
      obtain rfl : k = key := by simpa using hk
      have habsent : values.lookup k = none := by
        rw [List.lookup_eq_none_iff]
        intro p hp
        have hne : k ≠ p.1 := by
          rintro rfl
          exact hkey (List.mem_map.2 ⟨p, hp, rfl⟩)
        simpa using hne
      rw [habsent]
      rfl
  | (key, some v) :: values, h, k => by
    obtain ⟨-, hrest⟩ := List.nodup_cons.1 h
    show ((key, v) :: present values).lookup k = _
    rw [List.lookup_cons, List.lookup_cons, lookup_present hrest k]
    cases k == key <;> rfl

theorem keys_present (values : List (String × Option Json)) :
    ((present values).map Prod.fst).Sublist (values.map Prod.fst) := by
  induction values with
  | nil => exact .slnil
  | cons value values ih =>
    obtain ⟨k, v⟩ := value
    cases v with
    | none => exact ih.cons k
    | some v => exact ih.cons_cons k

/-- An object without repeated keys is read as a record in which each member is found under its
name. -/
theorem exists_record {v : Json} {members : List (String × Json)} (hv : v = .object members)
    (hkeys : (members.map Prod.fst).Nodup) (fields : List String) :
    ∃ r, v.record? fields = some r ∧ ∀ k, r.lookup k = members.lookup k := by
  refine ⟨members, ?_, fun k => rfl⟩
  rw [hv]
  exact if_pos (hkeys.filter _)

theorem exists_record_ofFields {v : Json} {values : List (String × Option Json)}
    (hv : v = ofFields values) (hkeys : (values.map Prod.fst).Nodup) (fields : List String) :
    ∃ r, v.record? fields = some r ∧ ∀ k, r.lookup k = (values.lookup k).join := by
  have hpresent : ((present values).map Prod.fst).Nodup := hkeys.sublist (keys_present values)
  obtain ⟨r, hr, h⟩ := exists_record hv hpresent fields
  exact ⟨r, hr, fun k => (h k).trans (lookup_present hkeys k)⟩

section Fields

variable {α : Type} {r : Record} {k : String} {read : Json → Option α} {write : α → Json}

theorem required_of_lookup {v : Json} {x : α} (h : r.lookup k = some v) (hread : read v = some x) :
    r.required k read = some x := by
  rw [Record.required, h, Option.bind_some, hread]

theorem optional_of_lookup {x : Option α} (h : r.lookup k = x.map write)
    (hread : ∀ a, read (write a) = some a) (hnull : ∀ a, write a ≠ .null) :
    r.optional k read = some x := by
  cases x with
  | none => simp only [Record.optional, h, Option.map_none]
  | some a =>
    simp only [Record.optional, h, Option.map_some]
    split
    · next heq => cases heq
    · next heq => exact absurd (Option.some.inj heq) (hnull a)
    · next heq => rw [← Option.some.inj heq, hread]; rfl

theorem listOf?_array (hread : ∀ x, read (write x) = some x) (xs : List α) :
    listOf? read (.array (xs.map write)) = some xs := by
  show (xs.map write).mapM read = some xs
  induction xs with
  | nil => rfl
  | cons x xs ih => rw [List.map_cons, List.mapM_cons, hread, ih]; rfl

theorem list_of_lookup [DecidableEq α] {xs : List α}
    (h : r.lookup k = if xs = [] then none else some (.array (xs.map write)))
    (hread : ∀ x, read (write x) = some x) : r.withDefault k [] (listOf? read) = some xs := by
  rw [Record.withDefault, h]
  by_cases hxs : xs = []
  · simp only [hxs, if_true]
  · simp only [hxs, if_false, listOf?_array hread]

/-- A flag that is left out unless it is set. -/
theorem flag_of_lookup {b : Bool} (h : r.lookup k = flagJson b) :
    r.withDefault k false boolean? = some b := by
  rw [Record.withDefault, h]
  cases b <;> rfl

end Fields

end Json

open Json

/-! ## Parts of a report -/

theorem Property.ofJson?_toJson (p : Property) : ofJson? p.toJson = some p := by
  obtain ⟨r, hr, h⟩ := exists_record (v := p.toJson) rfl (by simp) fields
  have hname : r.required "name" string? = some p.name := required_of_lookup (h "name") rfl
  have hvalue : r.required "value" string? = some p.value := required_of_lookup (h "value") rfl
  simp only [ofJson?, hr, hname, hvalue, Option.bind_eq_bind, Option.bind_some, Option.pure_def]

theorem Component.ofJson?_toJson (c : Component) : ofJson? c.toJson = some c := by
  obtain ⟨r, hr, h⟩ := exists_record_ofFields (v := c.toJson) rfl (by simp) fields
  have hname : r.required "name" string? = some c.name := required_of_lookup (h "name") rfl
  have hversion : r.optional "version" string? = some c.version :=
    optional_of_lookup (h "version") (fun _ => rfl) nofun
  have hpurl : r.required "purl" string? = some c.purl := required_of_lookup (h "purl") rfl
  have hproperties : r.withDefault "properties" [] (listOf? Property.ofJson?) = some c.properties :=
    list_of_lookup (h "properties") Property.ofJson?_toJson
  simp only [ofJson?, hr, hname, hversion, hpurl, hproperties, Option.bind_eq_bind,
    Option.bind_some, Option.pure_def]

theorem ArtifactSummary.ofJson?_toJson (a : ArtifactSummary) : ofJson? a.toJson = some a := by
  obtain ⟨r, hr, h⟩ := exists_record_ofFields (v := a.toJson) rfl (by simp) fields
  have hpackage : r.required "package" string? = some a.package :=
    required_of_lookup (h "package") rfl
  have hkind : r.required "kind" string? = some a.kind := required_of_lookup (h "kind") rfl
  have hversion : r.required "version" string? = some a.version :=
    required_of_lookup (h "version") rfl
  have hpath : r.required "path" string? = some a.path := required_of_lookup (h "path") rfl
  have hfile : r.required "requirement_file" string? = some a.requirementFile :=
    required_of_lookup (h "requirement_file") rfl
  have hmissing :
      r.withDefault "missing_req_file_checksum" false boolean? = some a.missingChecksum :=
    flag_of_lookup (h "missing_req_file_checksum")
  have hbuild : r.withDefault "build_dependency" false boolean? = some a.buildDependency :=
    flag_of_lookup (h "build_dependency")
  simp only [ofJson?, hr, hpackage, hkind, hversion, hpath, hfile, hmissing, hbuild,
    Option.bind_eq_bind, Option.bind_some, Option.pure_def]

theorem Ecosystem.ofJson?_name (e : Ecosystem) : ofJson? (.string e.name) = some e :=
  congrArg Except.toOption (ofName_name e)

theorem Mode.ofJson?_name (m : Mode) : ofJson? (.string m.name) = some m :=
  congrArg Except.toOption (ofName_name m)

theorem Error.Kind.ofJson?_name (k : Error.Kind) :
    ofJson? (.string k.name) = some k := ofName?_name k

theorem PackageReport.ofJson?_toJson (p : PackageReport) : ofJson? p.toJson = some p := by
  obtain ⟨r, hr, h⟩ := exists_record_ofFields (v := p.toJson) rfl (by simp) fields
  have htype : r.required "type" Ecosystem.ofJson? = some p.ecosystem :=
    required_of_lookup (h "type") (Ecosystem.ofJson?_name _)
  have hpath : r.required "path" string? = some p.path := required_of_lookup (h "path") rfl
  have hname : r.required "name" string? = some p.name := required_of_lookup (h "name") rfl
  have hversion : r.optional "version" string? = some p.version :=
    optional_of_lookup (h "version") (fun _ => rfl) nofun
  have hvcs : r.optional "vcs_url" string? = some p.vcsUrl :=
    optional_of_lookup (h "vcs_url") (fun _ => rfl) nofun
  have hartifacts : r.required "artifacts" (listOf? ArtifactSummary.ofJson?) = some p.artifacts :=
    required_of_lookup (h "artifacts") (listOf?_array ArtifactSummary.ofJson?_toJson _)
  have hcomponents : r.required "components" (listOf? Component.ofJson?) = some p.components :=
    required_of_lookup (h "components") (listOf?_array Component.ofJson?_toJson _)
  have hconfig : r.optional "sanitized_config" string? = some p.sanitizedConfig :=
    optional_of_lookup (h "sanitized_config") (fun _ => rfl) nofun
  simp only [ofJson?, hr, htype, hpath, hname, hversion, hvcs, hartifacts, hcomponents, hconfig,
    Option.bind_eq_bind, Option.bind_some, Option.pure_def]

theorem PackageFailure.ofJson?_toJson (f : PackageFailure) : ofJson? f.toJson = some f := by
  obtain ⟨r, hr, h⟩ := exists_record (v := f.toJson) rfl (by simp) fields
  have htype : r.required "type" Ecosystem.ofJson? = some f.ecosystem :=
    required_of_lookup (h "type") (Ecosystem.ofJson?_name _)
  have hpath : r.required "path" string? = some f.path := required_of_lookup (h "path") rfl
  have hkind : r.required "kind" Error.Kind.ofJson? = some f.kind :=
    required_of_lookup (h "kind") (Error.Kind.ofJson?_name _)
  have hmessage : r.required "message" string? = some f.message :=
    required_of_lookup (h "message") rfl
  simp only [ofJson?, hr, htype, hpath, hkind, hmessage, Option.bind_eq_bind, Option.bind_some,
    Option.pure_def]

theorem Tool.ofJson?_toJson (t : Tool) : ofJson? t.toJson = some t := by
  obtain ⟨r, hr, h⟩ := exists_record (v := t.toJson) rfl (by simp) fields
  have hname : r.required "name" string? = some t.name := required_of_lookup (h "name") rfl
  have hversion : r.required "version" string? = some t.version :=
    required_of_lookup (h "version") rfl
  simp only [ofJson?, hr, hname, hversion, Option.bind_eq_bind, Option.bind_some, Option.pure_def]

theorem Report.ofJson?_toJson (r : Report) : ofJson? r.toJson = some r := by
  obtain ⟨record, hrecord, h⟩ := exists_record (v := r.toJson) rfl (by simp) fields
  have hschema : record.required "schema" string? = some r.schema :=
    required_of_lookup (h "schema") rfl
  have htool : record.required "tool" Tool.ofJson? = some r.tool :=
    required_of_lookup (h "tool") (Tool.ofJson?_toJson _)
  have hmode : record.required "mode" Mode.ofJson? = some r.mode :=
    required_of_lookup (h "mode") (Mode.ofJson?_name _)
  have hpackages : record.required "packages" (listOf? PackageReport.ofJson?) = some r.packages :=
    required_of_lookup (h "packages") (listOf?_array PackageReport.ofJson?_toJson _)
  have hcomponents : record.required "components" (listOf? Component.ofJson?) = some r.components :=
    required_of_lookup (h "components") (listOf?_array Component.ofJson?_toJson _)
  have hfailures : record.required "failures" (listOf? PackageFailure.ofJson?) = some r.failures :=
    required_of_lookup (h "failures") (listOf?_array PackageFailure.ofJson?_toJson _)
  simp only [ofJson?, hrecord, hschema, htool, hmode, hpackages, hcomponents, hfailures,
    Option.bind_eq_bind, Option.bind_some, Option.pure_def]

/-! ## No numbers -/

namespace Json

def NumberlessField (v : Option Json) : Prop := ∀ w ∈ v, Numberless w

theorem numberless_ofFields {values : List (String × Option Json)}
    (h : ∀ f ∈ values, NumberlessField f.2) : Numberless (ofFields values) := by
  refine .object fun m hm => ?_
  obtain ⟨f, hf, hm⟩ := List.mem_filterMap.1 hm
  obtain ⟨v, hv, rfl⟩ := Option.map_eq_some_iff.1 hm
  exact h f hf v hv

theorem numberless_array {α : Type} {write : α → Json} (h : ∀ x, Numberless (write x))
    (xs : List α) : Numberless (.array (xs.map write)) := by
  refine .array fun v hv => ?_
  obtain ⟨x, -, rfl⟩ := List.mem_map.1 hv
  exact h x

theorem Numberless.field {v : Json} (h : Numberless v) : NumberlessField (some v) := by
  intro w hw
  rwa [← Option.some.inj hw]

theorem numberlessField_string (x : Option String) : NumberlessField (x.map .string) := by
  intro w hw
  obtain ⟨s, -, rfl⟩ := Option.map_eq_some_iff.1 hw
  exact .string s

theorem numberlessField_flag (b : Bool) : NumberlessField (flagJson b) := by
  cases b with
  | true => exact (Numberless.boolean true).field
  | false => exact nofun

end Json

theorem Property.numberless_toJson (p : Property) : Numberless p.toJson :=
  .object (by simp [Numberless.string])

theorem Component.numberless_toJson (c : Component) : Numberless c.toJson := by
  have hproperties : NumberlessField
      (if c.properties = [] then none else some (.array (c.properties.map Property.toJson))) := by
    split
    · exact nofun
    · exact (numberless_array Property.numberless_toJson _).field
  refine numberless_ofFields ?_
  simp only [List.forall_mem_cons]
  exact ⟨(Numberless.string _).field, numberlessField_string _, (Numberless.string _).field,
    hproperties, nofun⟩

theorem ArtifactSummary.numberless_toJson (a : ArtifactSummary) : Numberless a.toJson := by
  have hstring (s : String) : NumberlessField (some (.string s)) := (Numberless.string s).field
  refine numberless_ofFields ?_
  simp only [List.forall_mem_cons]
  exact ⟨hstring _, hstring _, hstring _, hstring _, hstring _, numberlessField_flag _,
    numberlessField_flag _, nofun⟩

theorem PackageReport.numberless_toJson (p : PackageReport) : Numberless p.toJson := by
  have hstring (s : String) : NumberlessField (some (.string s)) := (Numberless.string s).field
  refine numberless_ofFields ?_
  simp only [List.forall_mem_cons]
  exact ⟨hstring _, hstring _, hstring _, numberlessField_string _, numberlessField_string _,
    (numberless_array ArtifactSummary.numberless_toJson _).field,
    (numberless_array Component.numberless_toJson _).field, numberlessField_string _, nofun⟩

theorem PackageFailure.numberless_toJson (f : PackageFailure) : Numberless f.toJson :=
  .object (by simp [Numberless.string])

theorem Tool.numberless_toJson (t : Tool) :
    Numberless t.toJson := .object (by simp [Numberless.string])

theorem Report.numberless_toJson (r : Report) : Numberless r.toJson := by
  refine .object ?_
  simp only [List.forall_mem_cons]
  exact ⟨.string _, r.tool.numberless_toJson, .string _,
    numberless_array PackageReport.numberless_toJson _,
    numberless_array Component.numberless_toJson _,
    numberless_array PackageFailure.numberless_toJson _, nofun⟩

/-! ## The document -/

namespace Report

def bytes (r : Report) : List UInt8 := Text.utf8 r.render.toList

def ofBytes? (bytes : List UInt8) :
    Option Report := (Text.decode? bytes).bind fun s => parse? (String.ofList s)

theorem parse?_render (r : Report) : parse? r.render = some r := by
  have hend : Json.IsSpaces ['\n'] := by simp [Json.IsSpaces, Json.isSpace]
  have hdocument : Json.parse? r.render = some r.toJson :=
    Json.parse?_render r.numberless_toJson hend
  rw [parse?, hdocument, Option.bind_some, ofJson?_toJson]

/-- Any report is read from its document again; so what is read from any document, when it is
written and read, is written as the same bytes. -/
theorem ofBytes?_bytes : (∀ r : Report, ofBytes? r.bytes = some r) ∧
    ∀ (document : List UInt8) (r : Report), ofBytes? document = some r →
      ∃ r', ofBytes? r.bytes = some r' ∧ r'.bytes = r.bytes := by
  have hread (r : Report) : ofBytes? r.bytes = some r := by
    rw [ofBytes?, bytes, Text.decode?_utf8, Option.bind_some, String.ofList_toList, parse?_render]
  exact ⟨hread, fun document r _ => ⟨r, hread r, rfl⟩⟩

/-- A document on one line, with its members in another order, a member that is no field, a record
by position and an absent field that is written as null. -/
def spareDocument : String :=
  "\x7b\"mode\":\"strict\",\"note\":[1],\"schema\":\"s\",\"tool\":[\"t\",\"1\"]," ++
    "\"failures\":[],\"packages\":[]," ++
    "\"components\":[\x7b\"purl\":\"p\",\"name\":\"\\u0001\",\"version\":null\x7d]\x7d"

def spareReport : Report := ⟨"s", ⟨"t", "1"⟩, .strict, [], [⟨"\x01", none, "p", []⟩], []⟩

theorem ofBytes?_bytes_spare : ofBytes? (Text.utf8 spareDocument.toList) = some spareReport ∧
    ∃ r', ofBytes? spareReport.bytes = some r' ∧ r'.bytes = spareReport.bytes := by
  have hdocument : ofBytes? (Text.utf8 spareDocument.toList) = some spareReport := by
    rw [ofBytes?, Text.decode?_utf8, Option.bind_some, String.ofList_toList]
    decide +kernel
  exact ⟨hdocument, ofBytes?_bytes.2 _ spareReport hdocument⟩

end Report

end FetchPlan
