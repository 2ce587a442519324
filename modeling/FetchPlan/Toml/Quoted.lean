import FetchPlan.Text.Percent

/-!
Strings between quotes, read and written. A string has four forms: basic and literal, on one line
or on many. The writer takes the first form in a fixed order that can hold the text, and the basic
forms when none of the plain ones can; the readers undo every form.
-/
namespace FetchPlan.Toml.Quoted

/-- A control character, which stands in no string as itself. -/
def isControl (c : Char) : Bool := (c.toNat < 0x20 && c != '\t') || c.toNat == 0x7F

def hexChar? (digits : List Char) : Option Char := do
  let n ← digits.foldlM (fun n c => (Text.hexValue c).map (16 * n + ·)) 0
  if n.isValidChar then some (Char.ofNat n) else none

def push (c : Char) (rest : Option (List Char × List Char)) : Option (List Char × List Char) :=
  rest.map fun (s, r) => (c :: s, r)

def shortEscape? : Char → Option Char
  | 'b' => some '\x08'
  | 't' => some '\t'
  | 'n' => some '\n'
  | 'f' => some '\x0c'
  | 'r' => some '\r'
  | 'e' => some '\x1b'
  | '"' => some '"'
  | '\\' => some '\\'
  | _ => none

/-- Reads a basic string on one line, after its first quote: the text and what follows it. -/
def basic? : List Char → Option (List Char × List Char)
  | [] => none
  | '"' :: r => some ([], r)
  | '\\' :: 'x' :: a :: b :: r => (hexChar? [a, b]).bind fun c => push c (basic? r)
  | '\\' :: 'u' :: a :: b :: c :: d :: r =>
    (hexChar? [a, b, c, d]).bind fun x => push x (basic? r)
  | '\\' :: 'U' :: a :: b :: c :: d :: e :: f :: g :: h :: r =>
    (hexChar? [a, b, c, d, e, f, g, h]).bind fun x => push x (basic? r)
  | '\\' :: c :: r => (shortEscape? c).bind fun x => push x (basic? r)
  | c :: r => if isControl c || c == '\\' then none else push c (basic? r)

def literal? : List Char → Option (List Char × List Char)
  | [] => none
  | '\'' :: r => some ([], r)
  | c :: r => if isControl c then none else push c (literal? r)

/-- Where the reader of a basic string on many lines stands. -/
inductive Fold where
  /-- In the text. -/
  | text
  /-- After a backslash that only blanks have followed. -/
  | line
  /-- In the blanks and line ends that such a backslash takes along. -/
  | gap
  deriving DecidableEq, Repr

/-- Reads a basic string on many lines, after its first quotes and the line end after them. -/
def basicLines? : Fold → List Char → Option (List Char × List Char)
  | _, [] => none
  | .text, '\n' :: r => push '\n' (basicLines? .text r)
  | _, '\n' :: r => basicLines? .gap r
  | .text, '\r' :: '\n' :: r => push '\r' (push '\n' (basicLines? .text r))
  | _, '\r' :: '\n' :: r => basicLines? .gap r
  | .line, c :: r => if c = ' ' ∨ c = '\t' then basicLines? .line r else none
  | _, '"' :: '"' :: '"' :: '"' :: '"' :: r => some (['"', '"'], r)
  | _, '"' :: '"' :: '"' :: '"' :: r => some (['"'], r)
  | _, '"' :: '"' :: '"' :: r => some ([], r)
  | _, '\\' :: 'x' :: a :: b :: r => (hexChar? [a, b]).bind fun c => push c (basicLines? .text r)
  | _, '\\' :: 'u' :: a :: b :: c :: d :: r =>
    (hexChar? [a, b, c, d]).bind fun x => push x (basicLines? .text r)
  | _, '\\' :: 'U' :: a :: b :: c :: d :: e :: f :: g :: h :: r =>
    (hexChar? [a, b, c, d, e, f, g, h]).bind fun x => push x (basicLines? .text r)
  | _, '\\' :: c :: r =>
    match shortEscape? c with
    | some x => push x (basicLines? .text r)
    | none => basicLines? .line (c :: r)
  | fold, c :: r =>
    if fold = .gap ∧ (c = ' ' ∨ c = '\t') then basicLines? .gap r
    else if isControl c || c == '\\' then none
    else push c (basicLines? .text r)

/-- Reads a literal string on many lines, after its first quotes and the line end after them. -/
def literalLines? : List Char → Option (List Char × List Char)
  | [] => none
  | '\n' :: r => push '\n' (literalLines? r)
  | '\r' :: '\n' :: r => push '\r' (push '\n' (literalLines? r))
  | '\'' :: '\'' :: '\'' :: '\'' :: '\'' :: r => some (['\'', '\''], r)
  | '\'' :: '\'' :: '\'' :: '\'' :: r => some (['\''], r)
  | '\'' :: '\'' :: '\'' :: r => some ([], r)
  | c :: r => if isControl c then none else push c (literalLines? r)

/-- The text without one line end at its start. -/
def dropLineEnd : List Char → List Char
  | '\n' :: r => r
  | '\r' :: '\n' :: r => r
  | s => s

def oneLine? : List Char → Option (List Char × List Char)
  | '"' :: r => basic? r
  | '\'' :: r => literal? r
  | _ => none

def string? : List Char → Option (List Char × List Char)
  | '"' :: '"' :: '"' :: r => basicLines? .text (dropLineEnd r)
  | '\'' :: '\'' :: '\'' :: r => literalLines? (dropLineEnd r)
  | s => oneLine? s

def isBare (c : Char) : Bool := c.isAlphanum || c == '-' || c == '_'

/-- The escape of a character in a basic string that keeps line feeds when `lines` is set; quotes
are not its business. -/
def escapeChar (lines : Bool) (c : Char) : List Char :=
  if c = '\x08' then ['\\', 'b']
  else if c = '\t' then ['\\', 't']
  else if c = '\n' then if lines then ['\n'] else ['\\', 'n']
  else if c = '\x0c' then ['\\', 'f']
  else if c = '\r' then ['\\', 'r']
  else if c = '\\' then ['\\', '\\']
  else if isControl c then
    ['\\', 'u', '0', '0', Text.hexDigit (c.toNat / 16), Text.hexDigit (c.toNat % 16)]
  else [c]

/-- The text of a basic string between its quotes. `room` is the number of quotes that may still
stand as themselves in a row; on many lines that is two after anything else, on one line none. -/
def escape (lines : Bool) (room : Nat) : List Char → List Char
  | [] => []
  | '"' :: r =>
    match room with
    | room + 1 => '"' :: escape lines room r
    | 0 => '\\' :: '"' :: escape lines (if lines then 2 else 0) r
  | c :: r => escapeChar lines c ++ escape lines (if lines then 2 else 0) r

def basic (s : List Char) : List Char := '"' :: escape false 0 s ++ ['"']

def literal (s : List Char) : List Char := '\'' :: s ++ ['\'']

/-- The line end after the first quotes of a string on many lines, which keeps a line end of the
text from being dropped. -/
def firstLineEnd (s : List Char) : List Char := if s.contains '\n' then ['\n'] else []

def basicLines (s : List Char) : List Char :=
  "\"\"\"".toList ++ firstLineEnd s ++ escape true 2 s ++ "\"\"\"".toList

def literalLines (s : List Char) : List Char :=
  "'''".toList ++ firstLineEnd s ++ s ++ "'''".toList

/-- Whether three of a character stand in a row. -/
def hasThree (q : Char) : List Char → Bool
  | a :: b :: c :: r => (a == q && b == q && c == q) || hasThree q (b :: c :: r)
  | _ => false

/-- A string value, in the first form that can hold it plainly. -/
def value (s : List Char) : List Char :=
  let control := s.any fun c => isControl c && c != '\n'
  let lineFeed := s.contains '\n'
  if !control && !s.contains '\\' && !s.contains '"' && !lineFeed then basic s
  else if !control && !s.contains '\'' && !lineFeed then literal s
  else if !control && !s.contains '\\' && !hasThree '"' s then basicLines s
  else if !control && !hasThree '\'' s then literalLines s
  else if lineFeed then basicLines s
  else basic s

/-- A key: bare if it can be, else between quotes on one line. -/
def key (s : List Char) : List Char :=
  if s ≠ [] ∧ s.all isBare then s
  else if !s.any isControl && !s.contains '\\' && !s.contains '"' then basic s
  else if !s.any isControl && !s.contains '\'' then literal s
  else basic s

def stringArray (items : List (List Char)) : List Char :=
  '[' :: List.intercalate [',', ' '] (items.map value) ++ [']']

end FetchPlan.Toml.Quoted
