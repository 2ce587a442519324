import FetchPlan.Text.Blank
import FetchPlan.Text.Pieces

/-!
Filters of log lines: directives between commas. A directive is a level, or names a target or a
span in brackets, after which a level may follow.
-/
namespace FetchPlan.LogFilter

def levelWords : List String := ["off", "error", "warn", "info", "debug", "trace"]

/-- Whether a text is a level: one of the words, in letters of any case, or a number up to five. -/
def isLevel (s : List Char) : Bool :=
  let digits := match s with
    | '+' :: r => r
    | s => s
  String.ofList (s.map Char.toLower) ∈ levelWords ||
    (digits ≠ [] && digits.all Char.isDigit && ((String.ofList digits).toNat?.any (· ≤ 5)))

/-- Whether a text is the level of a target, which may be missing after its equals sign. -/
def isLevelOfTarget (s : List Char) : Bool := s = [] || isLevel s

/-- Whether a text may follow the bracket that closes a span. -/
def isAfterSpan : List Char → Bool
  | [] => true
  | '=' :: r => isLevelOfTarget r
  | _ => false

/-- Whether a text may follow the bracket that opens a span: a name and a field in braces, each of
which may be missing, the closing bracket, and a level. -/
def isSpan (s : List Char) : Bool :=
  match s.dropWhile fun c => c != ']' && c != '{' with
  | ']' :: r => isAfterSpan r
  | _ :: r =>
    match Text.cut (· == '}') r with
    | some (field, ']' :: r) => field ≠ [] && isAfterSpan r
    | _ => false
  | [] => false

def startsTarget (c : Char) : Bool :=
  c.isAlphanum || c == '-' || c == ':' || c == '_' || '\x7f' < c

def isDirective (s : List Char) : Bool :=
  match Text.trim s with
  | [] => false
  | '[' :: r => isSpan r
  | c :: r =>
    startsTarget c &&
      match r.dropWhile fun c => c != '=' && c != '[' with
      | '=' :: r => isLevelOfTarget r
      | _ :: r => isSpan r
      | [] => true

def isFilter (s : String) : Bool :=
  ((Text.fields (· == ',') s.toList).filter (· ≠ [])).all isDirective

end FetchPlan.LogFilter
