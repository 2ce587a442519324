import FetchPlan.Report.Basic
import FetchPlan.Resolution.Cargo
import FetchPlan.Resolution.Pip
import FetchPlan.Settings

/-!
Runs: the packages that the settings and the values given for a run ask for, each resolved by
itself in a pool of threads. A package that fails is reported and takes nothing away from the
others. What stops a run are settings that cannot be understood, a source or output directory that
cannot be resolved, and threads that the system refuses.

Assumed, and not part of the model: the threads. Whether a pool of some number of them can be had,
and what comes back from one, is a parameter of a run (`Threads`). Where a result rests on it, it
is a hypothesis that what comes back is in the order of the requests (`Threads.InOrder`); in which
order, and on which thread, the packages are worked on is left open. Packages are read and not
written while they are resolved, so resolving one of them is a function of the file tree.
-/
namespace FetchPlan

/-- Resolves one package, which has to stand in the source directory. -/
def resolvePackage (s : Surroundings) (request : PackageRequest) : Except Error Resolution := do
  let directory ← s.sourceDir.join s.tree request.path
  match request.ecosystem with
  | .cargo => Cargo.resolve s directory
  | .pip => Pip.resolve s directory request

/-- A pool of threads, by what comes back from it for a list of requests. -/
structure ThreadPool where
  collect : (PackageRequest → Except Error Resolution) → List PackageRequest →
    List (Except Error Resolution)

/-- The threads of a system: a pool with a number of them, zero leaving the number open, or the text
of the failure to start them. -/
structure Threads where
  pool : Nat → Except String ThreadPool

/-- Whether a pool gives back one result for each request, in their order. -/
def ThreadPool.InOrder (pool : ThreadPool) : Prop :=
  ∀ f requests, pool.collect f requests = requests.map f

/-- Whether every pool of the threads does so. -/
def Threads.InOrder (threads : Threads) : Prop :=
  ∀ n pool, threads.pool n = .ok pool → pool.InOrder

/-- The pool that works on one request after the other. -/
def ThreadPool.single : ThreadPool := ⟨fun f requests => requests.map f⟩

/-- Threads that are never refused. -/
def Threads.single : Threads := ⟨fun _ => .ok .single⟩

inductive RunError where
  | settings (e : SettingsError)
  | plan (e : SettingsError)
  | sourceDirectory (path : String) (e : Error)
  | outputDirectory (path : String) (e : Error)
  | threadPool (why : String)
  deriving Repr

def RunError.message : RunError → String
  | .settings e => "parse config: " ++ e.message
  | .plan e => "resolve config: " ++ e.message
  | .sourceDirectory path e => "source directory: " ++ path ++ ": " ++ e.messageChain
  | .outputDirectory path e => "output directory: " ++ path ++ ": " ++ e.messageChain
  | .threadPool why => "build thread pool: " ++ why

structure RunInput where
  sourceDir : String
  outputDir : String
  /-- The text of the settings file; blanks alone are settings that say nothing. -/
  settings : String
  overrides : Overrides
  deriving DecidableEq, Repr

structure Outcome where
  plan : Plan
  /-- The packages that were resolved, in the order of the requests. -/
  resolutions : List Resolution
  report : Report
  deriving DecidableEq, Repr

def settingsOf (text : String) : Except RunError Settings :=
  if Text.trim text.toList = [] then .ok Settings.empty
    else (Settings.parse text).mapError .settings

/-- The requests, each with what came back for it. -/
def resolveAll (pool : ThreadPool) (s : Surroundings) (requests : List PackageRequest) :
    List (PackageRequest × Except Error Resolution) :=
  requests.zip (pool.collect (resolvePackage s) requests)

def resolved (results : List (PackageRequest × Except Error Resolution)) : List Resolution :=
  results.filterMap fun (_, result) => result.toOption

def failed (results : List (PackageRequest × Except Error Resolution)) : List PackageFailure :=
  results.filterMap fun (request, result) =>
    match result with
    | .ok _ => none
    | .error e => some (PackageFailure.ofError request e)

def Plan.outcome (p : Plan) (pool : ThreadPool) (s : Surroundings) : Outcome :=
  let results := resolveAll pool s p.packages
  let rs := resolved results
  ⟨p, rs, Report.ofResolutions p.mode s.outputDir.path rs (failed results)⟩

/-- Resolves every package that is asked for. `lookup` finds the checkout that a location belongs
to. -/
def run (t : Files.Tree) (threads : Threads) (lookup : String → Except Error Checkout)
    (input : RunInput) : Except RunError Outcome := do
  let settings ← settingsOf input.settings
  let plan ← (settings.plan input.overrides).mapError .plan
  let sourceDir ← (RootedPath.new t input.sourceDir).mapError (.sourceDirectory input.sourceDir)
  let outputDir ← (RootedPath.new t input.outputDir).mapError (.outputDirectory input.outputDir)
  let pool ← (threads.pool plan.maxParallel).mapError .threadPool
  pure (plan.outcome pool ⟨t, sourceDir, outputDir, plan.mode, lookup⟩)

end FetchPlan
