import FetchPlan.Json.Value

/-!
Writing JSON over many lines: each item and each member stands on a line of its own, two blanks
deeper than what holds it, and an empty list or object stays on its line. A string is written in
double quotes; only the quote, the backslash and control characters are escaped.
-/
namespace FetchPlan.Json

def hexDigit (n : Nat) : Char :=
  if n < 10 then Char.ofNat ('0'.toNat + n) else Char.ofNat ('a'.toNat + (n - 10))

def escape (c : Char) : List Char :=
  if c = '"' then ['\\', '"']
  else if c = '\\' then ['\\', '\\']
  else if c = '\x08' then ['\\', 'b']
  else if c = '\x0c' then ['\\', 'f']
  else if c = '\n' then ['\\', 'n']
  else if c = '\r' then ['\\', 'r']
  else if c = '\t' then ['\\', 't']
  else if c.toNat < 32 then
    ['\\', 'u', '0', '0', hexDigit (c.toNat / 16), hexDigit (c.toNat % 16)]
  else [c]

def quote (s : List Char) : List Char := '"' :: (s.flatMap escape ++ ['"'])

def newLine (depth : Nat) : List Char := '\n' :: List.replicate (2 * depth) ' '

mutual

/-- The text of a value that stands at a depth. -/
def renderChars (depth : Nat) : Json → List Char
  | .null => "null".toList
  | .boolean b => if b then "true".toList else "false".toList
  | .number text => text.toList
  | .string s => quote s.toList
  | .array [] => ['[', ']']
  | .array (v :: r) =>
    '[' :: newLine (depth + 1) ++ renderChars (depth + 1) v ++ renderItems (depth + 1) r
      ++ newLine depth ++ [']']
  | .object [] => ['{', '}']
  | .object ((k, v) :: r) =>
    '{' :: newLine (depth + 1) ++ quote k.toList ++ ':' :: ' ' :: renderChars (depth + 1) v
      ++ renderMembers (depth + 1) r ++ newLine depth ++ ['}']

def renderItems (depth : Nat) : List Json → List Char
  | [] => []
  | v :: r => ',' :: newLine depth ++ renderChars depth v ++ renderItems depth r

def renderMembers (depth : Nat) : List (String × Json) → List Char
  | [] => []
  | (k, v) :: r =>
    ',' :: newLine depth ++ quote k.toList ++ ':' :: ' ' :: renderChars depth v
      ++ renderMembers depth r

end

def render (v : Json) : String := String.ofList (renderChars 0 v)

end FetchPlan.Json
