import FetchPlan.Toml.Quoted
import FetchPlan.Toml.Scalar

/-!
The statements of a TOML document: headers, and keys with their values. Reading takes the text
apart without asking whether the statements go together. Keys have at most 80 parts and values are
nested at most 80 deep.
-/
namespace FetchPlan.Toml

inductive Statement where
  | header (path : List String)
  | rowHeader (path : List String)
  | assign (path : List String) (value : Expr)
  deriving Repr

namespace Statement

/-- The number of parts of a key, and of values around a value, that a document may have. -/
def limit : Nat := 80

def isBlank (c : Char) : Bool := c == ' ' || c == '\t'

def skipBlanks (s : List Char) : List Char := s.dropWhile isBlank

/-- The text after blanks, line ends and comments. -/
def skipGaps? (comment : Bool) : List Char → Option (List Char)
  | [] => some []
  | '\n' :: r => skipGaps? false r
  | '\r' :: '\n' :: r => skipGaps? false r
  | c :: r =>
    if comment then if Quoted.isControl c then none else skipGaps? true r
    else if isBlank c then skipGaps? false r
    else if c = '#' then skipGaps? true r
    else some (c :: r)

/-- The text after the end of a statement: blanks and a comment up to a line end or the end. -/
def lineEnd? (comment : Bool) : List Char → Option (List Char)
  | [] => some []
  | '\n' :: r => some r
  | '\r' :: '\n' :: r => some r
  | c :: r =>
    if comment then if Quoted.isControl c then none else lineEnd? true r
    else if isBlank c then lineEnd? false r
    else if c = '#' then lineEnd? true r
    else none

def keyPart? (s : List Char) : Option (List Char × List Char) :=
  match Quoted.oneLine? s with
  | some found => some found
  | none =>
    let name := s.takeWhile Quoted.isBare
    if name = [] then none else some (name, s.dropWhile Quoted.isBare)

/-- A key of at most so many parts, and the text after the blanks that follow it. -/
def key? : Nat → List Char → Option (List String × List Char)
  | 0, _ => none
  | parts + 1, s => do
    let (name, r) ← keyPart? s
    match skipBlanks r with
    | '.' :: r => do
      let (names, r) ← key? parts (skipBlanks r)
      pure (String.ofList name :: names, r)
    | r => pure ([String.ofList name], r)

def isWordChar (c : Char) : Bool :=
  c.isAlphanum || c == '+' || c == '-' || c == '_' || c == '.' || c == ':'

/-- The word without quotes at the start of a text; the space between a date and a time of day
belongs to it. -/
def word (s : List Char) : List Char × List Char :=
  let w := s.takeWhile isWordChar
  match s.dropWhile isWordChar with
  | ' ' :: d :: r =>
    if d.isDigit ∧ Scalar.date? w = some [] then
      (w ++ ' ' :: (d :: r).takeWhile isWordChar, (d :: r).dropWhile isWordChar)
    else (w, ' ' :: d :: r)
  | r => (w, r)

def scalar? (s : List Char) : Option (Expr × List Char) :=
  if s.head? = some '"' ∨ s.head? = some '\'' then
    (Quoted.string? s).map fun (t, r) => (.scalar (.string (String.ofList t)), r)
  else do
    let (w, r) := word s
    pure (.scalar (← Scalar.ofWord? w), r)

mutual

/-- A value, inside which `depth` more may be nested, and the text after it. -/
def value? (fuel depth : Nat) (s : List Char) : Option (Expr × List Char) :=
  match fuel with
  | 0 => none
  | fuel + 1 =>
    match s with
    | '[' :: r =>
      match depth with
      | 0 => none
      | depth + 1 => (items? fuel depth r).map fun (vs, r) => (.array vs, r)
    | '{' :: r =>
      match depth with
      | 0 => none
      | depth + 1 => (entries? fuel depth r).map fun (es, r) => (.inlineTable es, r)
    | s => scalar? s

def items? (fuel depth : Nat) (s : List Char) : Option (List Expr × List Char) :=
  match fuel with
  | 0 => none
  | fuel + 1 => do
    match ← skipGaps? false s with
    | ']' :: r => pure ([], r)
    | s => do
      let (v, r) ← value? fuel depth s
      match ← skipGaps? false r with
      | ']' :: r => pure ([v], r)
      | ',' :: r => do
        let (vs, r) ← items? fuel depth r
        pure (v :: vs, r)
      | _ => none

def entries? (fuel depth : Nat) (s : List Char) : Option (List (List String × Expr) × List Char) :=
  match fuel with
  | 0 => none
  | fuel + 1 => do
    match ← skipGaps? false s with
    | '}' :: r => pure ([], r)
    | s => do
      let (path, r) ← key? limit s
      let '=' :: r := r | none
      let (v, r) ← value? fuel depth (skipBlanks r)
      match ← skipGaps? false r with
      | '}' :: r => pure ([(path, v)], r)
      | ',' :: r => do
        let (es, r) ← entries? fuel depth r
        pure ((path, v) :: es, r)
      | _ => none

end

def statement? (s : List Char) : Option (Statement × List Char) :=
  match s with
  | '[' :: '[' :: r => do
    let (path, r) ← key? limit (skipBlanks r)
    let ']' :: ']' :: r := r | none
    pure (.rowHeader path, r)
  | '[' :: r => do
    let (path, r) ← key? limit (skipBlanks r)
    let ']' :: r := r | none
    pure (.header path, r)
  | s => do
    let (path, r) ← key? limit s
    let '=' :: r := r | none
    let (v, r) ← value? (2 * r.length + 2) limit (skipBlanks r)
    pure (.assign path v, r)

/-- The statements of a text, of which there are fewer than `fuel`. -/
def statements? : Nat → List Char → Option (List Statement)
  | 0, _ => none
  | fuel + 1, s => do
    match ← skipGaps? false s with
    | [] => pure []
    | s => do
      let (st, r) ← statement? s
      let r ← lineEnd? false r
      return st :: (← statements? fuel r)

/-- The statements of a text. A byte order mark before the first one is dropped. -/
def ofText? (s : List Char) : Option (List Statement) :=
  match s with
  | '\uFEFF' :: r => statements? (r.length + 1) r
  | s => statements? (s.length + 1) s

end Statement
end FetchPlan.Toml
