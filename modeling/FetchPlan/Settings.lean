import FetchPlan.Package
import FetchPlan.Toml.Decode
import FetchPlan.Toml.Document

/-!
Settings: what a settings file asks for, and the plan that it makes together with the values given
for one run. A value given for the run wins over the file, and packages given for the run replace
all those of the file. Words are only understood when the plan is made: first the schema, then the
mode, then the packages.

A package is written as a table, or as the list of its fields in their order. A key that means
nothing is passed over at the top and refused in a package. The wording of a fault in the form of
the document is the reader's own and is not kept (`SettingsError.message`).
-/
namespace FetchPlan

structure PackageSetting where
  /-- The word for the ecosystem. -/
  ecosystem : String
  path : Option String
  requirementFiles : Option (List String)
  buildRequirementFiles : Option (List String)
  deriving DecidableEq, Repr

namespace PackageSetting

/-- How a package is spoken of in a complaint. -/
def noun : String := "struct PackageConfig"

/-- The fields in the order in which a list gives them. -/
def fields : List String := ["type", "path", "requirements_files", "requirements_build_files"]

/-- Takes one entry over. -/
def take (s : PackageSetting) : String × Toml.Node → Except Toml.Misfit PackageSetting
  | ("type", n) => return { s with ecosystem := ← n.asString }
  | ("path", n) => return { s with path := some (← n.asString) }
  | ("requirements_files", n) =>
    return { s with requirementFiles := some (← n.asList Toml.Node.asString) }
  | ("requirements_build_files", n) =>
    return { s with buildRequirementFiles := some (← n.asList Toml.Node.asString) }
  | (key, _) => throw (.unknown key fields)

def ofEntries (es : Toml.Entries) : Except Toml.Misfit PackageSetting := do
  let s ← es.byKey.foldlM take ⟨"", none, none, none⟩
  if (es.lookup "type").isNone then throw (.missing "type")
  pure s

/-- Reads the fields by their places. Only the first has to be there, and what follows the last one
is not looked at. -/
def ofItems : List Toml.Node → Except Toml.Misfit PackageSetting
  | [] => .error (.length 0 (noun ++ " with 4 elements"))
  | type :: rest => do
    let ecosystem ← type.asString
    let path ← rest[0]?.mapM Toml.Node.asString
    let files ← rest[1]?.mapM (Toml.Node.asList Toml.Node.asString)
    let buildFiles ← rest[2]?.mapM (Toml.Node.asList Toml.Node.asString)
    pure ⟨ecosystem, path, files, buildFiles⟩

def ofNode : Toml.Node → Except Toml.Misfit PackageSetting
  | .table _ es => ofEntries es
  | .array items => ofItems items
  | .tables rows => ofItems (rows.map (Toml.Node.table .header))
  | .scalar (.dateTime _) => .error (.unknown Toml.dateTimeKey fields)
  | n => .error (.kind n noun)

def request (s : PackageSetting) : Except UnknownWord PackageRequest := do
  let ecosystem ← Ecosystem.ofName s.ecosystem
  pure ⟨ecosystem, s.path.getD ".", s.requirementFiles, s.buildRequirementFiles⟩

end PackageSetting

structure Settings where
  schema : Option String
  mode : Option String
  maxParallel : Option Nat
  packages : List PackageSetting
  deriving DecidableEq, Repr

/-- Values given for one run. -/
structure Overrides where
  mode : Option String
  maxParallel : Option Nat
  packages : List PackageRequest
  deriving DecidableEq, Repr

structure Plan where
  mode : Mode
  /-- The number of threads; zero leaves it open. -/
  maxParallel : Nat
  packages : List PackageRequest
  deriving DecidableEq, Repr

inductive SettingsError where
  | notToml
  | misfit (m : Toml.Misfit)
  | schema (found : String)
  | mode (word : UnknownWord)
  | package (index : Nat) (word : UnknownWord)
  deriving Repr

namespace Settings

def schemaName : String := "prefetch.config.v1"

def empty : Settings := ⟨none, none, none, []⟩

/-- Takes one entry over; a key that means nothing is left out. -/
def take (s : Settings) : String × Toml.Node → Except Toml.Misfit Settings
  | ("schema", n) => return { s with schema := some (← n.asString) }
  | ("mode", n) => return { s with mode := some (← n.asString) }
  | ("max_parallel", n) => return { s with maxParallel := some (← n.asWord) }
  | ("packages", n) => return { s with packages := ← n.asList PackageSetting.ofNode }
  | _ => pure s

def parse (text : String) : Except SettingsError Settings :=
  match Toml.parse? text with
  | none => .error .notToml
  | some root => (root.byKey.foldlM take empty).mapError .misfit

/-- The requests of packages, numbered from `index` on. -/
def requests (index : Nat) : List PackageSetting → Except SettingsError (List PackageRequest)
  | [] => .ok []
  | s :: r => do
    let request ← s.request.mapError (.package index)
    let rest ← requests (index + 1) r
    pure (request :: rest)

def plan (s : Settings) (given : Overrides) : Except SettingsError Plan := do
  match s.schema with
  | some schema => if schema ≠ schemaName then throw (.schema schema)
  | none => pure ()
  let mode ← match given.mode.or s.mode with
    | some word => (Mode.ofName word).mapError .mode
    | none => pure default
  let packages ← if given.packages = [] then requests 0 s.packages else pure given.packages
  pure ⟨mode, (given.maxParallel.or s.maxParallel).getD 0, packages⟩

end Settings

/-- The text of the refusal; the text of a reader's complaint about the form of a document is not
kept. -/
def SettingsError.message : SettingsError → String
  | .notToml => "<toml>"
  | .misfit m => m.message
  | .schema found =>
    "unsupported config schema: " ++ found ++ " (expected " ++ Settings.schemaName ++ ")"
  | .mode word => word.message
  | .package index word => "invalid packages[" ++ toString index ++ "]: " ++ word.message

end FetchPlan
