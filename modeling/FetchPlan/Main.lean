import FetchPlan.Command.Execute

/-!
The command line program. It takes a picture of the directories that the arguments name, works on
it, and writes what has changed. No program is started for questions about repositories, so a
package that stands in one is reported as failed.

The picture holds every entry on the way to a named path, with what its links lead to, and all
that is below the source and the output directory but for the insides of repositories' own
directories. The file system is read before a command and written after it; between the two
everything is a function (`Command.execute`).
-/
namespace FetchPlan.Program

open Files

abbrev Picture := Files.Tree

def has (t : Picture) (p : Place) : Bool := (t.lookup p).isSome

/-- The place of an absolute path without links. -/
def placeOf (path : String) : Place := placePlainly [] path

/-- The target of a link. One that cannot be told is the link itself, so that nothing goes through
it. -/
def targetOf (path : String) : IO String := do
  try return (← IO.FS.realPath path).toString catch _ => return path

/-- Takes one entry into the picture, if there is one. -/
def takeEntry (t : Picture) (p : Place) : IO Picture := do
  if has t p then return t
  let path := Place.text p
  try
    let above ← IO.FS.realPath (Place.text p.dropLast)
    match (← (above / p.getLastD "").symlinkMetadata).type with
    | .dir => return t.put p .directory
    | .symlink => return t.put p (.link (← targetOf path))
    | _ => return t.put p (.file (← IO.FS.readBinFile path).toList)
  catch _ => return t

/-- Takes what is on the way to a place, with the markers of repositories in its directories. The
way goes on from the target of a link. -/
partial def takeWay (t : Picture) (p : Place) : IO Picture := do
  let mut t := t
  for count in List.range (p.length + 1) do
    let here := p.take count
    let known := has t here
    t ← takeEntry t here
    if let some (.link target) := t.lookup here then
      return ← if target = Place.text here then pure t
        else takeWay t (placeOf target ++ p.drop count)
    if !known || here = [] then t ← takeEntry t (here ++ [".git"])
  return t

/-- Takes a directory with all below it, except what is in the directory of a repository itself. -/
partial def takeAll (t : Picture) (p : Place) : IO Picture := do
  let mut t ← takeWay t p
  if t.lookup p = some .directory ∧ p.getLast? ≠ some ".git" then
    for e in ← (← IO.FS.realPath p.text).readDir do
      t ← takeAll t (p ++ [e.fileName])
  return t

/-- The paths that a task reads or writes, and whether all below them counts. -/
def pathsOf : Command.Task → List (String × Bool)
  | .resolve o =>
    [(o.sourceDir, true), (o.outputDir, true)] ++ (o.config.toList.map fun p => (p, false)) ++
      o.reportOut.toList.map fun p => (p, false)
  | .sanitizeConfig file => [(file, false)]

def pictureOf (task : Command.Task) : IO Picture := do
  let here := placeOf (← IO.FS.realPath ".").toString
  let mut t ← takeWay ⟨[], here⟩ here
  for (path, deep) in pathsOf task do
    let p := placePlainly here path
    t ← takeWay t p
    if deep then
      let real ← targetOf p.text
      t ← takeAll t (placeOf real)
  return t

def writeChanges (before after : Picture) : IO Unit := do
  for (p, e) in after.nodes do
    if before.lookup p ≠ some e then
      match e with
      | .directory => IO.FS.createDirAll p.text
      | .file content => IO.FS.writeBinFile p.text ⟨content.toArray⟩
      | .link _ => pure ()

def noGit : Git := ⟨"git", fun _ => .error .notFound⟩

end FetchPlan.Program

def main (args : List String) : IO UInt32 := do
  let before ← match FetchPlan.Command.parse args with
    | .task _ task => FetchPlan.Program.pictureOf task
    | _ => pure ⟨[], []⟩
  let result := FetchPlan.Command.execute before FetchPlan.Program.noGit .single args
  FetchPlan.Program.writeChanges before result.tree
  IO.print result.out
  for line in result.complaints do IO.eprintln line
  return result.exitCode.toUInt32
