import FetchPlan.Command.Help
import FetchPlan.Command.LogFilter
import FetchPlan.Report.Document
import FetchPlan.Git
import FetchPlan.Run

/-!
Doing what the command line asks for, on a file tree. A run reads the settings, makes the output
directory, resolves the packages, and writes the safe settings of each cargo package and the
report. A step that fails ends the command; what has been written so far stays.

A command maps a file tree to a `Result`: an exit code, what is printed, and the tree that is
left. The program for questions about repositories and the threads of the system are parameters.
Assumed: nothing else changes the tree while a command runs. Lines of a log are not part of a
result.
-/
namespace FetchPlan.Command

open Files

inductive WriteFailure where
  | directory (path : String) (e : IoFailure)
  | file (path : String) (e : IoFailure)
  deriving DecidableEq, Repr

def WriteFailure.message : WriteFailure → String
  | .directory path e => "create directory: " ++ path ++ ": " ++ e.message
  | .file path e => "write file: " ++ path ++ ": " ++ e.message

inductive Failure where
  | noSourceDirectory (path : String)
  | settingsFile (path : String) (e : IoFailure)
  | outputDirectory (e : WriteFailure)
  | run (e : RunError)
  | sanitizedConfig (e : WriteFailure)
  | report (e : WriteFailure)
  | input (path : String) (e : IoFailure)
  | sanitize (path : String) (e : Error)
  deriving Repr

def Failure.message : Failure → String
  | .noSourceDirectory path => "source directory does not exist: " ++ path
  | .settingsFile path e => "read config: " ++ path ++ ": " ++ e.message
  | .outputDirectory e => e.message
  | .run e => e.message
  | .sanitizedConfig e => "write sanitized cargo config: " ++ e.message
  | .report e => "write report json: " ++ e.message
  | .input path e => "read " ++ path ++ ": " ++ e.message
  | .sanitize path e => "sanitize " ++ path ++ ": " ++ e.messageChain

/-- What a command leaves behind: its exit code, the text that it prints, the lines of complaint,
and the file tree. -/
structure Result where
  exitCode : Nat
  out : String
  complaints : List String
  tree : Tree
  deriving DecidableEq, Repr

def Result.ofFailure (t : Tree) (e : Failure) : Result :=
  ⟨1, "", ["prefetch error: " ++ e.message], t⟩

def makeDirectories (t : Tree) (path : String) : Except WriteFailure Tree :=
  (t.makeDirectories path).mapError (.directory path)

/-- Writes a file; the directory that it stands in is made. -/
def writeFile (t : Tree) (path text : String) : Except WriteFailure Tree := do
  let t ← match parent? path with
    | some above => makeDirectories t above
    | none => pure t
  (t.writeFile path (Text.utf8 text.toList)).mapError (.file path)

def settingsFile : String := "prefetch.toml"

def reportFile : String := "prefetch.report.json"

def configDir : String := "config/cargo"

/-- The text of the settings. A file that is named has to be there; the usual one need not. -/
def settingsText (t : Tree) (o : ResolveOptions) : Except Failure String :=
  match o.config with
  | some path => (t.readText path).mapError (.settingsFile path)
  | none =>
    let path := joinText o.sourceDir settingsFile
    if t.isFile path then (t.readText path).mapError (.settingsFile path) else .ok ""

/-- The file for the safe settings of the package at a place in the report. -/
def configPath (outputDir : String) (index : Nat) : String :=
  joinText (joinText outputDir configDir) (toString index ++ "-config.toml")

/-- The files of safe settings, with their texts. The number in a name is the place of the package
in the report. -/
def configFiles (outputDir : String) (index : Nat) : List Resolution → List (String × String)
  | [] => []
  | r :: rest =>
    match r.ecosystem, r.sanitizedConfig with
    | .cargo, some text =>
      (configPath outputDir index, text) :: configFiles outputDir (index + 1) rest
    | _, _ => configFiles outputDir (index + 1) rest

def complaint (f : PackageFailure) : String :=
  "prefetch: " ++ f.ecosystem.name ++ " package at " ++ f.path ++ " failed: " ++ f.message

/-- Writes files one after the other, up to one that fails; gives the tree and the failure. -/
def writeAll (t : Tree) : List (String × String) → Tree × Option WriteFailure
  | [] => (t, none)
  | (path, text) :: r =>
    match writeFile t path text with
    | .ok t => writeAll t r
    | .error e => (t, some e)

def writeOutcome (t : Tree) (o : ResolveOptions) (outcome : Outcome) : Result :=
  match writeAll t (configFiles o.outputDir 0 outcome.resolutions) with
  | (t, some e) => .ofFailure t (.sanitizedConfig e)
  | (t, none) =>
    match writeFile t (o.reportOut.getD (joinText o.outputDir reportFile))
      outcome.report.render with
    | .error e => .ofFailure t (.report e)
    | .ok t => ⟨outcome.report.exitCode, "", outcome.report.failures.map complaint, t⟩

def resolve (t : Tree) (git : Git) (threads : Threads) (o : ResolveOptions) : Result :=
  if !t.isDirectory o.sourceDir then .ofFailure t (.noSourceDirectory o.sourceDir)
  else match settingsText t o with
    | .error e => .ofFailure t e
    | .ok settings =>
      match makeDirectories t o.outputDir with
      | .error e => .ofFailure t (.outputDirectory e)
      | .ok t =>
        let input : RunInput :=
          ⟨o.sourceDir, o.outputDir, settings, ⟨o.mode, o.maxParallel, o.packages⟩⟩
        match run t threads (git.checkout t) input with
        | .error e => .ofFailure t (.run e)
        | .ok outcome => writeOutcome t o outcome

def sanitizeConfig (t : Tree) (path : String) : Result :=
  match t.readText path with
  | .error e => .ofFailure t (.input path e)
  | .ok text =>
    match Sanitize.sanitize Sanitize.cargoPolicy text with
    | .error e => .ofFailure t (.sanitize path e)
    | .ok out => ⟨0, out, [], t⟩

def perform (t : Tree) (git : Git) (threads : Threads) : Task → Result
  | .resolve o => resolve t git threads o
  | .sanitizeConfig file => sanitizeConfig t file

/-- Does what the arguments ask for. Arguments that are not understood have the exit code two, a
filter of log lines that is none has one. -/
def execute (t : Tree) (git : Git) (threads : Threads) (args : List String) : Result :=
  match parse args with
  | .help verb => ⟨0, helpText verb, [], t⟩
  | .version => ⟨0, versionLine, [], t⟩
  | .misuse => ⟨2, "", [], t⟩
  | .task logFilter task =>
    if logFilter.all LogFilter.isFilter then perform t git threads task else ⟨1, "", [], t⟩

end FetchPlan.Command
