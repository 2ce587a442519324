import FetchPlan.Json.Printer
import FetchPlan.Json.Reader
import FetchPlan.Json.Record
import FetchPlan.Report.Basic

/-!
Reports as JSON documents. Each record is an object whose members keep the order of the fields; a
field without a value, an empty list of properties and a flag that is not set are left out.

Reading is the other way round, as a reader of records does it: the members of an object may stand
in any order, members that are no field are passed over, a field that may be absent may be null,
and a field with a default may be absent. A field that stands there twice is refused.
-/
namespace FetchPlan

/-- A flag, which is left out unless it is set. -/
def flagJson (b : Bool) : Option Json := if b then some (.boolean true) else none

namespace Property

def fields : List String := ["name", "value"]

def toJson (p : Property) : Json := .object [("name", .string p.name), ("value", .string p.value)]

def ofJson? (v : Json) : Option Property := do
  let r ← v.record? fields
  pure ⟨← r.required "name" Json.string?, ← r.required "value" Json.string?⟩

end Property

namespace Component

def fields : List String := ["name", "version", "purl", "properties"]

def toJson (c : Component) : Json :=
  .ofFields [("name", some (.string c.name)), ("version", c.version.map .string),
    ("purl", some (.string c.purl)),
    ("properties", if c.properties = [] then none
      else some (.array (c.properties.map Property.toJson)))]

def ofJson? (v : Json) : Option Component := do
  let r ← v.record? fields
  pure ⟨← r.required "name" Json.string?, ← r.optional "version" Json.string?,
    ← r.required "purl" Json.string?,
    ← r.withDefault "properties" [] (Json.listOf? Property.ofJson?)⟩

end Component

namespace ArtifactSummary

def fields : List String :=
  ["package", "kind", "version", "path", "requirement_file", "missing_req_file_checksum",
    "build_dependency"]

def toJson (a : ArtifactSummary) : Json :=
  .ofFields [("package", some (.string a.package)), ("kind", some (.string a.kind)),
    ("version", some (.string a.version)), ("path", some (.string a.path)),
    ("requirement_file", some (.string a.requirementFile)),
    ("missing_req_file_checksum", flagJson a.missingChecksum),
    ("build_dependency", flagJson a.buildDependency)]

def ofJson? (v : Json) : Option ArtifactSummary := do
  let r ← v.record? fields
  pure {
    package := ← r.required "package" Json.string?
    kind := ← r.required "kind" Json.string?
    version := ← r.required "version" Json.string?
    path := ← r.required "path" Json.string?
    requirementFile := ← r.required "requirement_file" Json.string?
    missingChecksum := ← r.withDefault "missing_req_file_checksum" false Json.boolean?
    buildDependency := ← r.withDefault "build_dependency" false Json.boolean? }

end ArtifactSummary

def Ecosystem.ofJson? (v : Json) : Option Ecosystem := v.word?.bind fun w => (ofName w).toOption

def Mode.ofJson? (v : Json) : Option Mode := v.word?.bind fun w => (ofName w).toOption

def Error.Kind.ofJson? (v : Json) : Option Error.Kind := v.word?.bind ofName?

namespace PackageReport

def fields : List String :=
  ["type", "path", "name", "version", "vcs_url", "artifacts", "components", "sanitized_config"]

def toJson (p : PackageReport) : Json :=
  .ofFields [("type", some (.string p.ecosystem.name)), ("path", some (.string p.path)),
    ("name", some (.string p.name)), ("version", p.version.map .string),
    ("vcs_url", p.vcsUrl.map .string),
    ("artifacts", some (.array (p.artifacts.map ArtifactSummary.toJson))),
    ("components", some (.array (p.components.map Component.toJson))),
    ("sanitized_config", p.sanitizedConfig.map .string)]

def ofJson? (v : Json) : Option PackageReport := do
  let r ← v.record? fields
  pure {
    ecosystem := ← r.required "type" Ecosystem.ofJson?
    path := ← r.required "path" Json.string?
    name := ← r.required "name" Json.string?
    version := ← r.optional "version" Json.string?
    vcsUrl := ← r.optional "vcs_url" Json.string?
    artifacts := ← r.required "artifacts" (Json.listOf? ArtifactSummary.ofJson?)
    components := ← r.required "components" (Json.listOf? Component.ofJson?)
    sanitizedConfig := ← r.optional "sanitized_config" Json.string? }

end PackageReport

namespace PackageFailure

def fields : List String := ["type", "path", "kind", "message"]

def toJson (f : PackageFailure) : Json :=
  .object [("type", .string f.ecosystem.name), ("path", .string f.path),
    ("kind", .string f.kind.name), ("message", .string f.message)]

def ofJson? (v : Json) : Option PackageFailure := do
  let r ← v.record? fields
  pure ⟨← r.required "type" Ecosystem.ofJson?, ← r.required "path" Json.string?,
    ← r.required "kind" Error.Kind.ofJson?, ← r.required "message" Json.string?⟩

end PackageFailure

namespace Tool

def fields : List String := ["name", "version"]

def toJson (t : Tool) : Json := .object [("name", .string t.name), ("version", .string t.version)]

def ofJson? (v : Json) : Option Tool := do
  let r ← v.record? fields
  pure ⟨← r.required "name" Json.string?, ← r.required "version" Json.string?⟩

end Tool

namespace Report

def fields : List String := ["schema", "tool", "mode", "packages", "components", "failures"]

def toJson (r : Report) : Json :=
  .object [("schema", .string r.schema), ("tool", r.tool.toJson), ("mode", .string r.mode.name),
    ("packages", .array (r.packages.map PackageReport.toJson)),
    ("components", .array (r.components.map Component.toJson)),
    ("failures", .array (r.failures.map PackageFailure.toJson))]

def ofJson? (v : Json) : Option Report := do
  let r ← v.record? fields
  pure {
    schema := ← r.required "schema" Json.string?
    tool := ← r.required "tool" Tool.ofJson?
    mode := ← r.required "mode" Mode.ofJson?
    packages := ← r.required "packages" (Json.listOf? PackageReport.ofJson?)
    components := ← r.required "components" (Json.listOf? Component.ofJson?)
    failures := ← r.required "failures" (Json.listOf? PackageFailure.ofJson?) }

/-- The document of a report, which ends with a line end. -/
def render (r : Report) : String := r.toJson.render ++ "\n"

def parse? (text : String) : Option Report := (Json.parse? text).bind ofJson?

end Report
end FetchPlan
