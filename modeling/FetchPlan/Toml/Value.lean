/-!
Values of a TOML document. `Expr` is a value as it is written: an inline table is a list of dotted
keys with their values. `Node` is a value as it is meant: a table maps each key to one node, and
remembers by which form it came about, since that decides who may still add to it.
-/
namespace FetchPlan.Toml

/-- A number with a fraction or an exponent: `digits * 10 ^ exponent`, or no number at all. -/
inductive Decimal where
  | finite (negative : Bool) (digits : Nat) (exponent : Int)
  | infinite (negative : Bool)
  | notANumber
  deriving DecidableEq, Repr

inductive Scalar where
  | string (s : String)
  | integer (n : Int)
  | float (d : Decimal)
  | boolean (b : Bool)
  /-- A date, a time or both, as written. -/
  | dateTime (text : String)
  deriving DecidableEq, Repr

/-- A value as it is written. -/
inductive Expr where
  | scalar (s : Scalar)
  | array (items : List Expr)
  | inlineTable (entries : List (List String × Expr))
  deriving Repr

/-- By which form a table came about. -/
inductive Form where
  /-- Its own header; so is the root, and each table of an array. -/
  | header
  /-- The header of a table inside it. -/
  | implied
  | dotted
  | inline
  deriving DecidableEq, Repr

/-- A value as it is meant. -/
inductive Node where
  | scalar (s : Scalar)
  | array (items : List Node)
  | table (form : Form) (entries : List (String × Node))
  /-- An array of tables that have headers. -/
  | tables (rows : List (List (String × Node)))
  deriving Repr

/-- The entries of a table, in the order of the document. -/
abbrev Entries := List (String × Node)

namespace Node

def entries? : Node → Option Entries
  | .table _ es => some es
  | _ => none

def string? : Node → Option String
  | .scalar (.string s) => some s
  | _ => none

def boolean? : Node → Option Bool
  | .scalar (.boolean b) => some b
  | _ => none

/-- The items of an array between brackets; an array of tables with headers is none. -/
def items? : Node → Option (List Node)
  | .array items => some items
  | _ => none

end Node

def Entries.table? (es : Entries) (key : String) :
    Option Entries := (es.lookup key).bind Node.entries?

def Entries.string? (es : Entries) (key : String) :
    Option String := (es.lookup key).bind Node.string?

end FetchPlan.Toml
