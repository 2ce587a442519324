import FetchPlan.Error
import FetchPlan.Toml.Document

/-!
Manifests: the name and version that a package gives itself. A crate may take its version from the
workspace it stands in, and a manifest of a workspace alone names it after its directory. A Python
project without a name is named after its directory too; a version that the build computes is no
version.

A manifest of cargo is refused when it cannot be read, when it declares neither a package nor a
workspace, and when the name of its package is no string. A Python project file is refused only
when it cannot be read. A version that is no string is none, unless the field says that it is the
workspace's.
-/
namespace FetchPlan

/-- The name of a project and its version, where it has one. -/
structure Identity where
  name : String
  version : Option String
  deriving DecidableEq, Repr

namespace Manifest

def cargoFile : String := "Cargo.toml"

def pythonFile : String := "pyproject.toml"

/-- The root table of a document; the text of a reader's complaint is not kept. -/
def document (what text : String) : Except Error Toml.Entries :=
  match Toml.parse? text with
  | some root => .ok root
  | none => .error (.unexpectedFormat what "<toml>")

/-- The version that the workspace gives to its members. -/
def workspaceVersion (root : Toml.Entries) : Option String := do
  let workspace ← root.table? "workspace"
  let package ← workspace.table? "package"
  package.string? "version"

/-- Whether a field is taken over from the workspace. -/
def fromWorkspace (field : Toml.Node) : Bool :=
  ((field.entries?.bind fun es => es.lookup "workspace").bind Toml.Node.boolean?).getD false

/-- The version of the crate that a package table describes. -/
def crateVersion (root package : Toml.Entries) : Option String :=
  match package.lookup "version" with
  | none => workspaceVersion root
  | some field =>
    match field.string? with
    | some version => some version
    | none => if fromWorkspace field then workspaceVersion root else none

/-- What a manifest of cargo says of itself, in a directory of this name. -/
def cargoIdentity (text directory : String) : Except Error Identity := do
  let root ← document cargoFile text
  match root.table? "package" with
  | some package =>
    match package.string? "name" with
    | some name => pure ⟨name, crateVersion root package⟩
    | none => throw (.unexpectedFormat cargoFile "[package].name is not a string")
  | none =>
    if (root.lookup "workspace").isSome then pure ⟨directory, workspaceVersion root⟩
    else throw (.unexpectedFormat cargoFile "neither [package] nor [workspace] is declared")

/-- Whether a project says that its version is computed. -/
def versionIsDynamic (project : Toml.Entries) : Bool :=
  match (project.lookup "dynamic").bind Toml.Node.items? with
  | some items => items.any fun n => n.string? == some "version"
  | none => false

/-- What a Python project file says of itself, in a directory of this name. -/
def pythonIdentity (text directory : String) : Except Error Identity := do
  let root ← document pythonFile text
  match root.table? "project" with
  | none => pure ⟨directory, none⟩
  | some project =>
    match project.string? "name" with
    | none => pure ⟨directory, none⟩
    | some name =>
      pure ⟨name, if versionIsDynamic project then none else project.string? "version"⟩

end Manifest
end FetchPlan
