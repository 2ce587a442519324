import FetchPlan.Lockfile
import FetchPlan.Proofs.SanitizedText

/-!
Files of cargo, written and read back. A manifest says what a crate says of itself, and a lock
file has a table for each locked crate. Whatever their strings hold, a written manifest reads back
as its identity (`cargoIdentity_manifestText`) and a written lock file as its crates in their
order (`parse_lockText`).
-/
namespace FetchPlan

open Toml Toml.Statement Sanitize

/-! ## Fields -/

/-- A field that holds a string, where there is one. -/
def stringField (name : String) (value : Option String) : List (String × Kept) :=
  (value.map fun s => (name, Kept.string s)).toList

def fieldLines (fields : List (String × Kept)) : List Char :=
  fields.flatMap fun (name, v) => Quoted.key name.toList ++ " = ".toList ++ v.render ++ ['\n']

def fieldStatements (fields : List (String × Kept)) : List Statement :=
  fields.map fun (name, v) => .assign [name] v.expr

/-- What fields are written as below a header. -/
def fieldBody (fields : List (String × Kept)) : List (List String × Expr) :=
  fields.map fun (name, v) => ([name], v.expr)

def fieldNodes (fields : List (String × Kept)) :
    Entries := fields.map fun (name, v) => (name, v.node)

theorem ofEntries?_fieldBody {fields : List (String × Kept)} (h : (fields.map Prod.fst).Nodup) :
    Node.ofEntries? [] (fieldBody fields) = some (fieldNodes fields) := by
  rw [fieldBody, ofEntries?_fields fields [] h, List.nil_append]
  rfl

/-! ## A table -/

/-- A table alone: the rest of its header after the bracket, and its fields. -/
def tableText (header : List Char) (fields : List (String × Kept)) : String :=
  String.ofList ('[' :: header ++ '\n' :: fieldLines fields)

theorem parse?_tableText {name : String} {header : List Char} {fields : List (String × Kept)}
    (hheader : ∀ r, statement? ('[' :: header ++ '\n' :: r) = some (.header [name], '\n' :: r))
    (hfields : (fields.map Prod.fst).Nodup) :
    Toml.parse? (tableText header fields) = some [(name, .table .header (fieldNodes fields))] := by
  have hstatements : Statement.ofText? (tableText header fields).toList =
      some (.header [name] :: fieldStatements fields) := by
    have hlines : Denotes (fieldLines fields) (fieldStatements fields) := by
      simpa [fieldLines, fieldStatements] using denotes_fields denotes_nil fields
    rw [tableText, String.toList_ofList]
    exact (hlines.line header rfl (hheader _)).ofText? nofun
  have hsections : sections (.header [name] :: fieldStatements fields) =
      ([], [⟨false, [name], fieldBody fields⟩]) := by
    have hbody := sections_assigns fields []
    rw [List.append_nil] at hbody
    rw [sections, fieldStatements, hbody]
    simp [sections, fieldBody]
  have hbody := ofEntries?_fieldBody hfields
  rw [Toml.parse?, hstatements, Option.bind_some, ofStatements?, hsections]
  simp [Node.ofEntries?, Entries.place?, hbody]

/-! ## Manifests -/

namespace Manifest

def identityFields (identity : Identity) : List (String × Kept) :=
  ("name", .string identity.name) :: stringField "version" identity.version

/-- The manifest of a crate that says its name, and its version where it has one. -/
def manifestText (identity : Identity) : String :=
  String.ofList ('[' :: "package]".toList ++ '\n' :: fieldLines (identityFields identity))

theorem nodup_identityFields (identity : Identity) :
    ((identityFields identity).map Prod.fst).Nodup := by
  obtain ⟨name, version⟩ := identity
  cases version <;> simp [identityFields, stringField]

theorem parse?_manifestText (identity : Identity) : Toml.parse? (manifestText identity) =
    some [("package", .table .header (fieldNodes (identityFields identity)))] :=
  parse?_tableText (fun _ => rfl) (nodup_identityFields identity)

theorem cargoIdentity_manifestText (identity : Identity) (directory : String) :
    cargoIdentity (manifestText identity) directory = .ok identity := by
  unfold cargoIdentity document
  rw [parse?_manifestText]
  obtain ⟨name, version⟩ := identity
  cases version <;> rfl

end Manifest

/-! ## Lock files -/

namespace Lockfile

def crateFields (c : LockedCrate) : List (String × Kept) :=
  ("name", .string c.name) :: ("version", .string c.version) :: stringField "source" c.source ++
    stringField "checksum" c.checksum

def crateText (c : LockedCrate) :
    List Char := '[' :: "[package]]".toList ++ '\n' :: fieldLines (crateFields c)

def lockText (crates : List LockedCrate) : String := String.ofList (crates.flatMap crateText)

theorem nodup_crateFields (c : LockedCrate) : ((crateFields c).map Prod.fst).Nodup := by
  obtain ⟨name, version, source, checksum⟩ := c
  cases source <;> cases checksum <;> simp [crateFields, stringField]

theorem crate_fieldNodes (c : LockedCrate) : crate (fieldNodes (crateFields c)) = .ok c := by
  obtain ⟨name, version, source, checksum⟩ := c
  cases source <;> cases checksum <;> rfl

def rowText (fields : List (String × Kept)) :
    List Char := '[' :: "[package]]".toList ++ '\n' :: fieldLines fields

/-- A lock file of tables with any fields. -/
def rowsText (rows : List (List (String × Kept))) : String := String.ofList (rows.flatMap rowText)

theorem lockText_eq (crates : List LockedCrate) :
    lockText crates = rowsText (crates.map crateFields) := by
  rw [lockText, rowsText, List.flatMap_map]
  rfl

def rowStatements (fields : List (String × Kept)) :
    List Statement := .rowHeader ["package"] :: fieldStatements fields

theorem denotes_rows : ∀ rows : List (List (String × Kept)),
    Denotes (rows.flatMap rowText) (rows.flatMap rowStatements)
  | [] => denotes_nil
  | fields :: rows => by
    have hheader : ∀ r, statement? ('[' :: "[package]]".toList ++ '\n' :: r) =
        some (.rowHeader ["package"], '\n' :: r) := fun r => rfl
    rw [List.flatMap_cons, List.flatMap_cons, rowText, rowStatements, List.append_assoc]
    exact (denotes_fields (denotes_rows rows) fields).line "[package]]".toList rfl (hheader _)

theorem sections_rows : ∀ rows : List (List (String × Kept)),
    sections (rows.flatMap rowStatements) =
    ([], rows.map fun fields => ⟨true, ["package"], fieldBody fields⟩)
  | [] => rfl
  | fields :: rows => by
    have ih := sections_rows rows
    rw [List.flatMap_cons, rowStatements, List.cons_append, sections, fieldStatements,
      sections_assigns, ih]
    simp [fieldBody]

/-- The document of some rows: without any there is no array. -/
def rowsRoot : List Entries → Entries
  | [] => []
  | row :: rows => [("package", .tables (row :: rows))]

/-- A table of the array comes after those that are there. -/
theorem place?_row (rows : List Entries) {fields : List (String × Kept)}
    (h : (fields.map Prod.fst).Nodup) :
    (rowsRoot rows).place? true (fieldBody fields)
    ["package"] = some (rowsRoot (rows ++ [fieldNodes fields])) := by
  have hbody := ofEntries?_fieldBody h
  cases rows with
  | nil => simp [rowsRoot, Entries.place?, hbody]
  | cons row rows => simp [rowsRoot, Entries.place?, hbody, Entries.replace]

theorem foldlM_rows : ∀ {rows : List (List (String × Kept))},
    (∀ fields ∈ rows, (fields.map Prod.fst).Nodup) →
    ∀ before : List Entries,
      (rows.map fun fields => (⟨true, ["package"], fieldBody fields⟩ : Section)).foldlM
        (fun root s => root.place? s.isRow s.body s.path) (rowsRoot before) =
          some (rowsRoot (before ++ rows.map fieldNodes))
  | [], _, before => by simp
  | fields :: rows, h, before => by
    obtain ⟨hfields, hrows⟩ := List.forall_mem_cons.1 h
    have ih := foldlM_rows hrows (before ++ [fieldNodes fields])
    rw [List.map_cons, List.foldlM_cons, place?_row before hfields]
    simpa using ih

/-- A written lock file means its tables, whichever fields they have. -/
theorem parse?_rowsText {rows : List (List (String × Kept))}
    (h : ∀ fields ∈ rows, (fields.map Prod.fst).Nodup) :
    Toml.parse? (rowsText rows) = some (rowsRoot (rows.map fieldNodes)) := by
  have hmark : (rows.flatMap rowText).head? ≠ some '\uFEFF' := by
    cases rows with
    | nil => nofun
    | cons fields rows =>
      rw [List.flatMap_cons]
      exact nofun
  have hstatements := (denotes_rows rows).ofText? hmark
  have hrows := foldlM_rows h []
  rw [List.nil_append] at hrows
  rw [Toml.parse?, rowsText, String.toList_ofList, hstatements, Option.bind_some,
    ofStatements?, sections_rows]
  exact hrows

theorem parse?_lockText (crates : List LockedCrate) :
    Toml.parse? (lockText crates) =
      some (rowsRoot (crates.map fun c => fieldNodes (crateFields c))) := by
  have hnodup : ∀ fields ∈ crates.map crateFields, (fields.map Prod.fst).Nodup := by
    simpa using fun c _ => nodup_crateFields c
  rw [lockText_eq, parse?_rowsText hnodup, List.map_map]
  rfl

theorem mapM_crate : ∀ crates : List LockedCrate,
    (crates.map fun c => fieldNodes (crateFields c)).mapM crate = .ok crates
  | [] => rfl
  | c :: crates => by
    rw [List.map_cons, List.mapM_cons, crate_fieldNodes, mapM_crate crates]
    rfl

/-- A written lock file reads back as its crates. -/
theorem parse_lockText (crates : List LockedCrate) : parse (lockText crates) = .ok crates := by
  have hrows := mapM_crate crates
  unfold parse Manifest.document
  rw [parse?_lockText]
  cases crates with
  | nil => rfl
  | cons c crates => exact hrows

example : lockText [⟨"a", "1", none, none⟩, ⟨"b", "2", some "registry+https://i", none⟩] =
    "[[package]]\nname = \"a\"\nversion = \"1\"\n" ++
      "[[package]]\nname = \"b\"\nversion = \"2\"\nsource = \"registry+https://i\"\n" := by
  decide +kernel

end Lockfile

end FetchPlan
