import FetchPlan.Unicode.Hidden

/-!
A text between quotes for a reader of messages: what would not show is written by its code point.
-/
namespace FetchPlan.Text

def showChar (c : Char) : List Char :=
  if c = '"' then ['\\', '"']
  else if c = '\\' then ['\\', '\\']
  else if c = '\n' then ['\\', 'n']
  else if c = '\r' then ['\\', 'r']
  else if c = '\t' then ['\\', 't']
  else if c = '\x00' then ['\\', '0']
  else if c < ' ' ∨ c = '\x7f' ∨ ('\x7f' < c ∧ Unicode.isIn Unicode.hidden c.toNat) then
    "\\u\x7b".toList ++ Nat.toDigits 16 c.toNat ++ ['}']
  else [c]

/-- A text between quotes. -/
def shown (s : String) : String :=
  String.ofList ('"' :: s.toList.flatMap showChar ++ ['"'])

end FetchPlan.Text
