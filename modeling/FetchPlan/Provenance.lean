import FetchPlan.Error
import FetchPlan.Package
import FetchPlan.Remote

/-!
Provenance of a source tree: the repository and commit it is a checkout of, and the policy for a
tree that is no checkout.

The policy is one function of three things: what the lookup of a checkout answered, the mode, and
whether the tree lies in the output directory. Only the answer that a tree is in no repository is
judged by the mode; any other failure is passed on in either mode.
-/
namespace FetchPlan

/-- The remote and the commit of a checked-out source tree. -/
structure Checkout where
  host : Option String
  remoteUrl : String
  commit : String
  deriving DecidableEq, Repr

namespace Checkout

/-- The checkout of a commit of a remote, which is recorded without credentials. -/
def ofRemote (remote commit : String) : Checkout :=
  let url := Remote.normalize remote
  ⟨Remote.host? url, url, commit⟩

def vcsUrl (c : Checkout) : String := "git+" ++ c.remoteUrl ++ "@" ++ c.commit

end Checkout

/-- The provenance that follows from the answer of a lookup. A tree outside every repository has
none in permissive mode, and in strict mode only when it lies inside the output directory. -/
def provenance (lookup : Except Error Checkout) (mode : Mode) (insideOutput : Bool) :
    Except Error (Option Checkout) :=
  match lookup with
  | .ok checkout => .ok (some checkout)
  | .error (.notAGitRepo path) =>
    if mode = .permissive ∨ insideOutput then .ok none else .error (.notAGitRepo path)
  | .error e => .error e

end FetchPlan
