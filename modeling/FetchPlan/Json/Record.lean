import FetchPlan.Json.Value

/-!
Records in JSON: objects whose members are the fields of a record. A field that may be absent may
be null too; members that are no field are not looked at. A record may also be given as the list
of its fields.
-/
namespace FetchPlan.Json

/-- The fields of a record that are there. -/
abbrev Record := List (String × Json)

/-- The record of a value, the fields of a list going by their order. No field may stand there
twice. -/
def record? (fields : List String) : Json → Option Record
  | .object members =>
    if ((members.map Prod.fst).filter (fields.contains ·)).Nodup then some members else none
  | .array items => if items.length ≤ fields.length then some (fields.zip items) else none
  | _ => none

namespace Record

def required {α : Type} (r : Record) (field : String) (read : Json → Option α) : Option α :=
  (r.lookup field).bind read

/-- A field that may be absent or null. -/
def optional {α : Type} (r : Record) (field : String) (read : Json → Option α) :
    Option (Option α) :=
  match r.lookup field with
  | none => some none
  | some .null => some none
  | some v => (read v).map some

/-- A field that may be absent, but not null. -/
def withDefault {α : Type} (r : Record) (field : String) (absent : α) (read : Json → Option α) :
    Option α :=
  match r.lookup field with
  | none => some absent
  | some v => read v

end Record

def listOf? {α : Type} (read : Json → Option α) (v : Json) : Option (List α) :=
  v.items?.bind fun items => items.mapM read

/-- One word of several: a string, or an object with the word as its only key and null below it. -/
def word? : Json → Option String
  | .string s => some s
  | .object [(s, .null)] => some s
  | _ => none

def ofFields (fields : List (String × Option Json)) : Json :=
  .object (fields.filterMap fun (k, v) => v.map fun v => (k, v))

end FetchPlan.Json
