import FetchPlan.Package

/-!
The arguments of the command line. Options are written `--name value` or `--name=value`; a value
after a blank does not begin with a hyphen, except for a hyphen alone. After two hyphens only
plain arguments follow. The arguments are taken from left to right: the first fault decides, and a
request for help or for the version before it wins.

Not part of the model: the texts of complaints about the command line. Arguments that are not
understood come to `misuse`, whatever is wrong with them.
-/
namespace FetchPlan.Command

structure ResolveOptions where
  sourceDir : String
  outputDir : String
  packages : List PackageRequest
  mode : Option String
  maxParallel : Option Nat
  /-- The settings file, where one is named. -/
  config : Option String
  /-- The file of the report, where one is named. -/
  reportOut : Option String
  deriving DecidableEq, Repr

inductive Task where
  | resolve (o : ResolveOptions)
  /-- Print the safe part of a settings file of cargo. -/
  | sanitizeConfig (file : String)
  deriving DecidableEq, Repr

inductive Verb where
  | resolve | sanitizeConfig
  deriving DecidableEq, Repr

inductive Invocation where
  /-- Print help, on one command or on all. -/
  | help (verb : Option Verb)
  | version
  /-- Do a task; the filter of log lines goes with it. -/
  | task (logFilter : Option String) (t : Task)
  /-- The arguments are not understood. -/
  | misuse
  deriving DecidableEq, Repr

namespace Verb

def name : Verb → String
  | .resolve => "resolve"
  | .sanitizeConfig => "sanitize-cargo-config"

def ofName? (s : String) : Option Verb := [.resolve, .sanitizeConfig].find? fun v => v.name == s

end Verb

inductive Argument where
  | separator
  /-- A long option, and the value after its equals sign. -/
  | long (name : String) (value : Option String)
  | short (letters : List Char)
  | plain (s : String)
  deriving DecidableEq, Repr

def Argument.ofText (s : String) : Argument :=
  match s.toList with
  | ['-', '-'] => .separator
  | '-' :: '-' :: r =>
    match Text.cut (· == '=') r with
    | some (name, value) => .long (String.ofList name) (some (String.ofList value))
    | none => .long (String.ofList r) none
  | '-' :: c :: r => .short (c :: r)
  | _ => .plain s

/-- The value of an option and the arguments after it. -/
def valueOf? (attached : Option String) (rest : List String) : Option (String × List String) :=
  match attached, rest with
  | some v, rest => some (v, rest)
  | none, v :: rest => if Argument.ofText v = .plain v then some (v, rest) else none
  | none, [] => none

theorem length_of_valueOf? {attached : Option String} {rest after : List String} {v : String}
    (h : valueOf? attached rest = some (v, after)) : after.length ≤ rest.length := by
  unfold valueOf? at h
  split at h
  · simp only [Option.some.injEq, Prod.mk.injEq] at h
    exact h.2 ▸ Nat.le_refl _
  · split at h
    · simp only [Option.some.injEq, Prod.mk.injEq] at h
      rw [← h.2]
      exact Nat.le_succ _
    · simp at h
  · simp at h

inductive Stop where
  | help
  | version
  | misuse
  deriving DecidableEq, Repr

inductive Part where
  | option (name value : String)
  | plain (s : String)
  deriving DecidableEq, Repr

/-- Splits the arguments of a command into parts and takes each one over, as `take` says;
`isOption` tells the options. -/
def gather {σ : Type} (isOption : String → Bool) (take : σ → Part → Option σ) (state : σ) :
    List String → Except Stop σ
  | [] => .ok state
  | arg :: rest =>
    match Argument.ofText arg with
    | .separator =>
      match (rest.map Part.plain).foldlM take state with
      | some state => .ok state
      | none => .error .misuse
    | .short letters => if letters.head? = some 'h' then .error .help else .error .misuse
    | .plain s =>
      match take state (.plain s) with
      | some state => gather isOption take state rest
      | none => .error .misuse
    | .long name attached =>
      if name = "help" ∧ attached = none then .error .help
      else if isOption name then
        match _h : valueOf? attached rest with
        | some (value, after) =>
          match take state (.option name value) with
          | some state => gather isOption take state after
          | none => .error .misuse
        | none => .error .misuse
      else .error .misuse
  termination_by args => args.length
  decreasing_by
    · simp
    · simpa using Nat.lt_succ_of_le (length_of_valueOf? _h)

/-- The options of a command given so far. -/
structure Given where
  logFilter : Option String
  options : List (String × String)
  packages : List PackageRequest
  file : Option String
  deriving DecidableEq, Repr

namespace Given

def none : Given := ⟨.none, [], [], .none⟩

def once (g : Given) (name value : String) : Option Given :=
  if (g.options.lookup name).isSome then .none
  else some { g with options := g.options ++ [(name, value)] }

def setFilter (g : Given) (value : String) : Option Given :=
  if g.logFilter.isSome then .none else some { g with logFilter := some value }

end Given

/-- The value of a word of 32 bits: a sign and digits. -/
def word? (s : String) : Option Nat :=
  let (negative, digits) := match s.toList with
    | '-' :: r => (true, r)
    | '+' :: r => (false, r)
    | r => (false, r)
  if digits ≠ [] ∧ digits.all Char.isDigit then
    let n := digits.foldl (fun n c => 10 * n + (c.toNat - '0'.toNat)) 0
    if n < 0x100000000 ∧ (negative → n = 0) then some n else none
  else none

def isResolveOption (name : String) : Bool :=
  name ∈ ["source-dir", "output-dir", "package", "mode", "max-parallel", "config", "report-out",
    "log-level"]

def takeForResolve (g : Given) : Part → Option Given
  | .plain _ => none
  | .option "log-level" value => g.setFilter value
  | .option "package" value =>
    match PackageRequest.ofText value with
    | .ok request => some { g with packages := g.packages ++ [request] }
    | .error _ => none
  | .option "max-parallel" value => (word? value).bind fun _ => g.once "max-parallel" value
  | .option name value => g.once name value

def takeForSanitize (g : Given) : Part → Option Given
  | .plain s => if g.file.isSome then none else some { g with file := some s }
  | .option _ value => g.setFilter value

/-- The task of a command from what is given; something that it needs may be missing. -/
def Given.task? (g : Given) : Verb → Option Task
  | .resolve => do
    let outputDir ← g.options.lookup "output-dir"
    pure (.resolve {
      sourceDir := (g.options.lookup "source-dir").getD "."
      outputDir := outputDir
      packages := g.packages
      mode := g.options.lookup "mode"
      maxParallel := (g.options.lookup "max-parallel").bind word?
      config := g.options.lookup "config"
      reportOut := g.options.lookup "report-out" })
  | .sanitizeConfig => g.file.map .sanitizeConfig

def ofVerb (logFilter : Option String) (verb : Verb) (args : List String) : Invocation :=
  let result := match verb with
    | .resolve => gather isResolveOption takeForResolve Given.none args
    | .sanitizeConfig => gather (· == "log-level") takeForSanitize Given.none args
  match result with
  | .error .help => .help (some verb)
  | .error _ => .misuse
  | .ok g =>
    match g.task? verb with
    | some t => .task (g.logFilter.or logFilter) t
    | none => .misuse

def ofHelp : List String → Invocation
  | [] => .help none
  | ["help"] => .help none
  | [name] =>
    match Verb.ofName? name with
    | some verb => .help (some verb)
    | none => .misuse
  | _ => .misuse

/-- Reads the arguments of the program. `logFilter` is the filter given so far. -/
def ofArguments (logFilter : Option String) : List String → Invocation
  | [] => .misuse
  | arg :: rest =>
    match Argument.ofText arg with
    | .separator => .misuse
    | .short letters =>
      if letters.head? = some 'h' then .help none
      else if letters.head? = some 'V' then .version
      else .misuse
    | .plain s =>
      if s = "help" then ofHelp rest
      else
        match Verb.ofName? s with
        | some verb => ofVerb logFilter verb rest
        | none => .misuse
    | .long name attached =>
      if name = "help" ∧ attached = none then .help none
      else if name = "version" ∧ attached = none then .version
      else if name = "log-level" ∧ logFilter = none then
        match _h : valueOf? attached rest with
        | some (value, after) => ofArguments (some value) after
        | none => .misuse
      else .misuse
  termination_by args => args.length
  decreasing_by simpa using Nat.lt_succ_of_le (length_of_valueOf? _h)

def parse (args : List String) : Invocation := ofArguments none args

end FetchPlan.Command
