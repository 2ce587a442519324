/-!
Values of a JSON document. A number is kept as it is written; the members of an object keep their
order.
-/
namespace FetchPlan

inductive Json where
  | null
  | boolean (b : Bool)
  | number (text : String)
  | string (s : String)
  | array (items : List Json)
  | object (members : List (String × Json))
  deriving Repr

namespace Json

def string? : Json → Option String
  | .string s => some s
  | _ => none

def boolean? : Json → Option Bool
  | .boolean b => some b
  | _ => none

def items? : Json → Option (List Json)
  | .array items => some items
  | _ => none

end Json
end FetchPlan
