import FetchPlan.Toml.Statement

/-!
TOML documents: the statements of a text put together into one table. No key is set twice, and a
table that is complete is not added to: one with braces by nothing, one with a header by no second
header and by no dotted key, one made by dotted keys by no header. A header of a table that so far
only headers inside it have implied completes it, and gives it the last place among its siblings.

A table of a document remembers how it came about (`Form`). That is what decides whether a later
statement may add to it, and nothing else about it does.
-/
namespace FetchPlan.Toml

def Entries.replace (es : Entries) (key : String) (n : Node) : Entries :=
  es.map fun (k, m) => if k = key then (k, n) else (k, m)

def Entries.without (es : Entries) (key : String) : Entries := es.filter fun (k, _) => k ≠ key

/-- Whether dotted keys may lead through a table of this form. -/
def Form.open? : Form → Bool
  | .implied => true
  | .dotted => true
  | _ => false

/-- Sets a dotted key. The tables on its way come about by it, and the last one must be of its
kind. -/
def Entries.assign? : Entries → List String → Node → Option Entries
  | _, [], _ => none
  | es, [k], n => if (es.lookup k).isSome then none else some (es ++ [(k, n)])
  | es, k :: l :: rest, n =>
    match es.lookup k with
    | none => (Entries.assign? [] (l :: rest) n).map fun sub => es ++ [(k, .table .dotted sub)]
    | some (.table form sub) =>
      if form.open? ∧ (rest = [] → form = .dotted) then
        (Entries.assign? sub (l :: rest) n).map fun sub => es.replace k (.table form sub)
      else none
    | some (.tables rows) =>
      match rows.getLast? with
      | some row =>
        if rest = [] then none
        else (Entries.assign? row (l :: rest) n).map fun row =>
          es.replace k (.tables (rows.dropLast ++ [row]))
      | none => none
    | some _ => none

mutual

/-- The meaning of a value; `none` if a key of an inline table is set twice. -/
def Node.ofExpr? : Expr → Option Node
  | .scalar s => some (.scalar s)
  | .array items => (Node.ofItems? items).map .array
  | .inlineTable entries => (Node.ofEntries? [] entries).map (.table .inline)

def Node.ofItems? : List Expr → Option (List Node)
  | [] => some []
  | e :: r => do return (← Node.ofExpr? e) :: (← Node.ofItems? r)

/-- Sets the keys of an inline table, one after the other. -/
def Node.ofEntries? (es : Entries) : List (List String × Expr) → Option Entries
  | [] => some es
  | (path, e) :: r => do
    let n ← Node.ofExpr? e
    let es ← es.assign? path n
    Node.ofEntries? es r

end

/-- What stands below one header, or before the first one (which has no path). -/
structure Section where
  isRow : Bool
  path : List String
  body : List (List String × Expr)
  deriving Repr

/-- The keys before the first header, and the sections after it. -/
def sections : List Statement → List (List String × Expr) × List Section
  | [] => ([], [])
  | .assign path e :: r => let (body, ss) := sections r; ((path, e) :: body, ss)
  | .header path :: r => let (body, ss) := sections r; ([], ⟨false, path, body⟩ :: ss)
  | .rowHeader path :: r => let (body, ss) := sections r; ([], ⟨true, path, body⟩ :: ss)

/-- Puts a section into its place below the tables that its path leads through. Of an array of
tables the path leads through the last one. -/
def Entries.place? (isRow : Bool) (body : List (List String × Expr)) :
    Entries → List String → Option Entries
  | _, [] => none
  | es, [k] =>
    if isRow then
      match es.lookup k with
      | none => (Node.ofEntries? [] body).map fun row => es ++ [(k, .tables [row])]
      | some (.tables rows) =>
        (Node.ofEntries? [] body).map fun row => es.replace k (.tables (rows ++ [row]))
      | some _ => none
    else
      match es.lookup k with
      | none => (Node.ofEntries? [] body).map fun sub => es ++ [(k, .table .header sub)]
      | some (.table .implied sub) =>
        (Node.ofEntries? sub body).map fun sub => es.without k ++ [(k, .table .header sub)]
      | some _ => none
  | es, k :: l :: rest =>
    match es.lookup k with
    | none => (place? isRow body [] (l :: rest)).map fun sub => es ++ [(k, .table .implied sub)]
    | some (.table form sub) =>
      if form = .inline then none
      else (place? isRow body sub (l :: rest)).map fun sub => es.replace k (.table form sub)
    | some (.tables rows) =>
      match rows.getLast? with
      | some row =>
        (place? isRow body row (l :: rest)).map fun row =>
          es.replace k (.tables (rows.dropLast ++ [row]))
      | none => none
    | some _ => none

def ofStatements? (statements : List Statement) : Option Entries := do
  let (body, ss) := sections statements
  let root ← Node.ofEntries? [] body
  ss.foldlM (fun root s => root.place? s.isRow s.body s.path) root

/-- The root table of a document. -/
def parse? (text : String) : Option Entries := (Statement.ofText? text.toList).bind ofStatements?

end FetchPlan.Toml
