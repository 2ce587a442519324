import FetchPlan.Number.Binary64
import FetchPlan.Text.Shown
import FetchPlan.Toml.Value

/-!
Reading typed values out of a document. The keys of a table are visited in the order of their
bytes, and the first value that does not fit decides the complaint.
-/
namespace FetchPlan.Toml

/-- The text of a decimal, by the shortest one that rounds to the same binary number. -/
def Decimal.text : Decimal → String
  | .finite negative digits exponent =>
    (if negative then "-" else "") ++ (Binary64.ofDecimal digits exponent).text
  | .infinite negative => if negative then "-inf" else "inf"
  | .notANumber => "NaN"

/-- How a value is spoken of in a complaint. A date or a time is a map of one hidden key. -/
def Node.noun : Node → String
  | .scalar (.string s) => "string " ++ Text.shown s
  | .scalar (.integer n) => "integer \x60" ++ toString n ++ "\x60"
  | .scalar (.float d) => "floating point \x60" ++ d.text ++ "\x60"
  | .scalar (.boolean b) => "boolean \x60" ++ (if b then "true" else "false") ++ "\x60"
  | .scalar (.dateTime _) => "map"
  | .array _ => "sequence"
  | .table _ _ => "map"
  | .tables _ => "sequence"

/-- The hidden key of a date or a time. -/
def dateTimeKey : String := "$__toml_private_datetime"

inductive Misfit where
  /-- A value of another kind. -/
  | kind (found : Node) (expected : String)
  /-- An integer outside of the range. -/
  | range (found : Int) (expected : String)
  /-- A list that ends before a field which has to be there. -/
  | length (found : Nat) (expected : String)
  /-- A table without a key which has to be there. -/
  | missing (field : String)
  /-- A table with a key that means nothing. -/
  | unknown (field : String) (expected : List String)
  deriving Repr

namespace Misfit

def quoted (name : String) : String := "\x60" ++ name ++ "\x60"

def message : Misfit → String
  | .kind found expected => "invalid type: " ++ found.noun ++ ", expected " ++ expected
  | .range found expected =>
    "invalid value: integer " ++ quoted (toString found) ++ ", expected " ++ expected
  | .length found expected => "invalid length " ++ toString found ++ ", expected " ++ expected
  | .missing field => "missing field " ++ quoted field
  | .unknown field expected =>
    "unknown field " ++ quoted field ++ ", expected one of " ++
      ", ".intercalate (expected.map quoted)

end Misfit

def Node.asString : Node → Except Misfit String
  | .scalar (.string s) => .ok s
  | n => .error (.kind n "a string")

def wordLimit : Nat := 0x100000000

/-- A whole number of 32 bits. -/
def Node.asWord : Node → Except Misfit Nat
  | .scalar (.integer n) =>
    if 0 ≤ n ∧ n < wordLimit then .ok n.toNat else .error (.range n "u32")
  | n => .error (.kind n "u32")

/-- A list, each item of which is read alike. -/
def Node.asList {α : Type} (read : Node → Except Misfit α) : Node → Except Misfit (List α)
  | .array items => items.mapM read
  | .tables rows => rows.mapM fun row => read (.table .header row)
  | n => .error (.kind n "a sequence")

/-- The entries in the order in which they are visited. -/
def Entries.byKey (es : Entries) : Entries := es.mergeSort fun a b => decide (a.1 ≤ b.1)

end FetchPlan.Toml
