import FetchPlan.Manifest
import FetchPlan.Toml.Quoted

/-!
Allow lists for configuration that a later step with more rights reads. A policy names sections;
each section holds named entries, of which those with a required field stay, with the fields that
the policy lists and in its order. Everything is written anew, so nothing else of the document is
left.

A policy is data, and `cargoPolicy` is the only one that a command uses. An entry without its
required field goes as a whole; a field with a value of another kind goes alone. The text that is
written has one spelling for each entry, and names and strings are quoted where they need it.
-/
namespace FetchPlan.Sanitize

/-- What values a field may have. -/
inductive FieldKind where
  | string
  | stringOrList
  deriving DecidableEq, Repr

structure FieldPolicy where
  name : String
  kind : FieldKind
  deriving DecidableEq, Repr

/-- A table of named entries. -/
structure SectionPolicy where
  name : String
  /-- The field without which an entry is dropped. -/
  required : String
  fields : List FieldPolicy
  deriving DecidableEq, Repr

/-- What may stay of a document; `what` names it in errors. -/
structure Policy where
  what : String
  sections : List SectionPolicy
  deriving DecidableEq, Repr

/-- The policy for configurations of cargo: registries with their credentials. -/
def cargoPolicy : Policy where
  what := "cargo config"
  sections := [⟨"registries", "index",
    [⟨"index", .string⟩, ⟨"token", .string⟩, ⟨"credential-provider", .stringOrList⟩]⟩]

inductive Kept where
  | string (s : String)
  | list (items : List String)
  deriving DecidableEq, Repr

def keptValue (kind : FieldKind) (n : Toml.Node) : Option Kept :=
  match n.string?, kind with
  | some s, _ => some (.string s)
  | none, .string => none
  | none, .stringOrList => do
    let items ← n.items?
    (items.mapM Toml.Node.string?).map .list

structure KeptEntry where
  sectionName : String
  name : String
  fields : List (String × Kept)
  deriving DecidableEq, Repr

def keptEntry (s : SectionPolicy) (name : String) (n : Toml.Node) : Option KeptEntry := do
  let entry ← n.entries?
  let _ ← entry.string? s.required
  pure ⟨s.name, name, s.fields.filterMap fun f =>
    ((entry.lookup f.name).bind (keptValue f.kind)).map fun v => (f.name, v)⟩

def keptEntries (policy : Policy) (root : Toml.Entries) : List KeptEntry :=
  policy.sections.flatMap fun s =>
    ((root.table? s.name).getD []).filterMap fun (name, n) => keptEntry s name n

def Kept.render : Kept → List Char
  | .string s => Toml.Quoted.value s.toList
  | .list items => Toml.Quoted.stringArray (items.map String.toList)

/-- The text of an entry: a header and a line for each field. -/
def KeptEntry.render (e : KeptEntry) : List Char :=
  '[' :: e.sectionName.toList ++ '.' :: Toml.Quoted.key e.name.toList ++ "]\n".toList ++
    e.fields.flatMap fun (name, v) =>
      Toml.Quoted.key name.toList ++ " = ".toList ++ v.render ++ ['\n']

/-- The text of what stays: the entries with an empty line between them. -/
def render (es : List KeptEntry) : String :=
  String.ofList (List.intercalate ['\n'] (es.map KeptEntry.render))

/-- The part of a document that a policy allows, written anew. -/
def sanitize (policy : Policy) (text : String) : Except Error String := do
  let root ← Manifest.document policy.what text
  pure (render (keptEntries policy root))

end FetchPlan.Sanitize
