import FetchPlan.Json.Value
import FetchPlan.Text.Percent

/-!
Reading JSON. Each reader takes what it reads from the front of a text and gives the rest.

The fuel of the readers is told from the length of the text, so it never runs out on a document
that can be read.
-/
namespace FetchPlan.Json

/-- A character that may stand between any two parts. -/
def isSpace (c : Char) : Bool := c == ' ' || c == '\n' || c == '\r' || c == '\t'

def skip (s : List Char) : List Char := s.dropWhile isSpace

/-- The number of four digits of base sixteen. -/
def unit? (a b c d : Char) : Option Nat := do
  let a ← Text.hexValue a
  let b ← Text.hexValue b
  let c ← Text.hexValue c
  let d ← Text.hexValue d
  pure (16 * (16 * (16 * a + b) + c) + d)

/-- The character of a code unit that is no half of a pair. -/
def ofUnit? (u : Nat) : Option Char :=
  if 0xD800 ≤ u ∧ u < 0xE000 then none else some (Char.ofNat u)

/-- The character of a pair of code units. -/
def ofPair? (high low : Nat) : Option Char :=
  if 0xD800 ≤ high ∧ high < 0xDC00 ∧ 0xDC00 ≤ low ∧ low < 0xE000 then
    some (Char.ofNat (0x10000 + 0x400 * (high - 0xD800) + (low - 0xDC00)))
  else none

def unescape? : Char → Option Char
  | '"' => some '"'
  | '\\' => some '\\'
  | '/' => some '/'
  | 'b' => some '\x08'
  | 'f' => some '\x0c'
  | 'n' => some '\n'
  | 'r' => some '\r'
  | 't' => some '\t'
  | _ => none

/-- Reads a string up to the quote that ends it. -/
def unquote? : List Char → Option (List Char × List Char)
  | [] => none
  | '"' :: r => some ([], r)
  | '\\' :: 'u' :: a :: b :: c :: d :: r =>
    match unit? a b c d with
    | none => none
    | some u =>
      match ofUnit? u with
      | some x => (unquote? r).map fun (s, rest) => (x :: s, rest)
      | none =>
        match r with
        | '\\' :: 'u' :: e :: f :: g :: h :: r =>
          match (unit? e f g h).bind (ofPair? u) with
          | some x => (unquote? r).map fun (s, rest) => (x :: s, rest)
          | none => none
        | _ => none
  | '\\' :: c :: r =>
    match unescape? c with
    | some x => (unquote? r).map fun (s, rest) => (x :: s, rest)
    | none => none
  | c :: r =>
    if c = '\\' ∨ c.toNat < 32 then none
    else (unquote? r).map fun (s, rest) => (c :: s, rest)

def digits? (s : List Char) : Option (List Char × List Char) :=
  let ds := s.takeWhile Char.isDigit
  if ds = [] then none else some (ds, s.dropWhile Char.isDigit)

def fraction? : List Char → Option (List Char × List Char)
  | '.' :: r => (digits? r).map fun (ds, rest) => ('.' :: ds, rest)
  | s => some ([], s)

def exponent? : List Char → Option (List Char × List Char)
  | c :: r =>
    if c = 'e' ∨ c = 'E' then
      match r with
      | '+' :: r => (digits? r).map fun (ds, rest) => (c :: '+' :: ds, rest)
      | '-' :: r => (digits? r).map fun (ds, rest) => (c :: '-' :: ds, rest)
      | r => (digits? r).map fun (ds, rest) => (c :: ds, rest)
    else some ([], c :: r)
  | [] => some ([], [])

def number? (s : List Char) : Option (List Char × List Char) := do
  let (sign, s) := match s with
    | '-' :: r => (['-'], r)
    | s => ([], s)
  let (whole, s) ← digits? s
  if whole.head? = some '0' ∧ whole.length > 1 then none
  let (fraction, s) ← fraction? s
  let (exponent, s) ← exponent? s
  pure (sign ++ whole ++ fraction ++ exponent, s)

mutual

/-- Reads a value. Each step into a value or on to the next item takes one unit of fuel. -/
def readValue? : Nat → List Char → Option (Json × List Char)
  | 0, _ => none
  | fuel + 1, s =>
    match skip s with
    | 'n' :: 'u' :: 'l' :: 'l' :: r => some (.null, r)
    | 't' :: 'r' :: 'u' :: 'e' :: r => some (.boolean true, r)
    | 'f' :: 'a' :: 'l' :: 's' :: 'e' :: r => some (.boolean false, r)
    | '"' :: r => (unquote? r).map fun (cs, rest) => (.string (String.ofList cs), rest)
    | '[' :: r =>
      match skip r with
      | ']' :: r => some (.array [], r)
      | r => (readItems? fuel r).map fun (vs, rest) => (.array vs, rest)
    | '{' :: r =>
      match skip r with
      | '}' :: r => some (.object [], r)
      | r => (readMembers? fuel r).map fun (ms, rest) => (.object ms, rest)
    | s => (number? s).map fun (cs, rest) => (.number (String.ofList cs), rest)

def readItems? : Nat → List Char → Option (List Json × List Char)
  | 0, _ => none
  | fuel + 1, s =>
    match readValue? fuel s with
    | none => none
    | some (v, rest) =>
      match skip rest with
      | ',' :: r => (readItems? fuel r).map fun (vs, rest) => (v :: vs, rest)
      | ']' :: r => some ([v], r)
      | _ => none

def readMembers? : Nat → List Char → Option (List (String × Json) × List Char)
  | 0, _ => none
  | fuel + 1, s =>
    match skip s with
    | '"' :: r =>
      match unquote? r with
      | none => none
      | some (key, rest) =>
        match skip rest with
        | ':' :: r =>
          match readValue? fuel r with
          | none => none
          | some (v, rest) =>
            let m := (String.ofList key, v)
            match skip rest with
            | ',' :: r => (readMembers? fuel r).map fun (ms, rest) => (m :: ms, rest)
            | '}' :: r => some ([m], r)
            | _ => none
        | _ => none
    | _ => none

end

/-- Reads a document. Twice its length is fuel enough, since two steps in a row read a character. -/
def parse? (text : String) : Option Json :=
  let s := text.toList
  match readValue? (2 * s.length + 2) s with
  | some (v, rest) => if skip rest = [] then some v else none
  | none => none

end FetchPlan.Json
