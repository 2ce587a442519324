import FetchPlan.Requirements.Basic

/-!
Writing a requirements file: the options on lines of their own, then one line for each
requirement, with the parts that are absent left out.
-/
namespace FetchPlan.Requirements

def renderExtras : List String → List Char
  | [] => []
  | e :: r => '[' :: e.toList ++ r.flatMap (fun e => ',' :: e.toList) ++ [']']

def renderPin : Pin → List Char
  | .version v => "==".toList ++ v.toList
  | .repository url reference => " @ git+".toList ++ url.toList ++ '@' :: reference.toList
  | .url url => " @ ".toList ++ url.toList

def renderMarker : Option String → List Char
  | none => []
  | some m => " ; ".toList ++ m.toList

def renderRequirement (r : Requirement) : List Char :=
  r.name.toList ++ renderExtras r.extras ++ renderPin r.pin ++ renderMarker r.marker ++
    r.hashes.flatMap fun h => " --hash=".toList ++ h.toList

def renderLines (f : Requirements) : List (List Char) :=
  (f.indexUrl.toList.map fun url => "--index-url ".toList ++ url.toList) ++
    (if f.requireHashes then ["--require-hashes".toList] else []) ++
      f.requirements.map renderRequirement

def render (f : Requirements) : String := String.ofList (f.renderLines.flatMap (· ++ ['\n']))

end FetchPlan.Requirements
