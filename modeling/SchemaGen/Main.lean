import SchemaGen.CommandLine.Command
import SchemaGen.Exclusion.Visibility

/-!
# The program

The command is a computation on a file system that is held in memory, and this is what connects it
with the disk.  What the command may look at is copied first, the command runs on the copy, and
what it has changed there is stored on the disk.

A directory that is reached through a symbolic link is taken for the directory that the link leads
to, but a search does not follow the links that it meets.

* `personalRules`: the rules that the user has for all repositories.
* `Copy.route`, `Copy.rules`, `Copy.tree`: copy what a path passes, what excludes an entry, and what
  a directory holds.
* `copyFor`: copies what arguments need.
* `storeChanges`: stores what has changed.
-/

namespace SchemaGen.Program

open CommandLine

/-- The path of a location. -/
def pathOf (l : Location) : String :=
  "/" ++ "/".intercalate l

/-- What the disk has at a location. -/
def onDisk (l : Location) : IO (Option Entry) := do
  try
    let path ← IO.FS.realPath (pathOf l)
    if ← path.isDir then return some .directory
    return some (.file (← IO.FS.readBinFile path))
  catch _ => return none

/-- The rules that the user has for all repositories, where they are kept by default.  They are
about what is below the working directory `here`, seen from there. -/
def personalRules (here : Location) : IO Exclusion.Verdicts := do
  let configured ← IO.getEnv "XDG_CONFIG_HOME"
  let home ← IO.getEnv "HOME"
  let some directory := configured <|> home.map (· ++ "/.config") | return fun _ _ => none
  try
    let rules := Exclusion.rulesOf (← IO.FS.readBinFile (directory ++ "/git/ignore"))
    return fun l isDirectory =>
      if here.isPrefixOf l then
        Exclusion.verdict? rules (Exclusion.relativePath here l) isDirectory
      else Exclusion.verdict? rules (Exclusion.relativePath [] l) isDirectory
  catch _ => return fun _ _ => none

namespace Copy

/-- Copies one entry. -/
def entry (fs : FileSystem) (l : Location) : IO FileSystem := do
  if l = [] then return fs
  match ← onDisk l with
  | some e => return fs.put l e
  | none => return fs

/-- The locations that a path passes, in order, and where it leads. -/
def passed (fs : FileSystem) (path : String) : List Location × Location :=
  (Path.pieces path).foldl
    (fun (seen, here) piece =>
      let next := if Path.isIdle piece then here else if piece = ".." then here.dropLast
        else here ++ [piece]
      (seen ++ [next], next))
    ([fs.start path], fs.start path)

/-- Copies what a path passes and where it leads. -/
def route (fs : FileSystem) (path : String) : IO FileSystem :=
  (passed fs path).1.foldlM entry fs

/-- Copies what excludes entries of a directory.  The own rules of a repository that is a link are
told by two more files. -/
def rules (fs : FileSystem) (directory : Location) : IO FileSystem := do
  let mut fs := fs
  for names in [[".ignore"], [".gitignore"], [".git"], [".jj"], [".git", "info", "exclude"]] do
    fs ← entry fs (directory ++ names)
  let some link := Exclusion.fileAt fs (directory ++ [Exclusion.dataName]) | return fs
  let some data := link.dataDirectory?.toOption.join | return fs
  let common := Path.join data "commondir"
  fs ← route fs common
  let some file := (Exclusion.lookUp fs common).toOption.join | return fs
  let some line := file.firstLine.toOption.join | return fs
  route fs (Exclusion.ownRulesPath data line)

/-- Copies what a directory holds.  Only the content of manifests and of files of rules is read. -/
partial def tree (fs : FileSystem) (directory : Location) : IO FileSystem := do
  let mut fs ← rules fs directory
  for found in ← (← IO.FS.realPath (pathOf directory)).readDir do
    let l := directory ++ [found.fileName]
    match (← found.path.symlinkMetadata).type with
    | .dir => fs ← tree (fs.put l .directory) l
    | .file =>
      if Path.isManifest found.fileName then fs ← entry fs l
      else if (fs.entryAt? l).isNone then fs := fs.put l (.file .empty)
    | _ => pure ()
  return fs

/-- Copies an input: a file, or a directory with what it holds and what excludes its entries. -/
def input (fs : FileSystem) (path : String) : IO FileSystem := do
  let mut fs ← route fs path
  match fs.locate path with
  | .ok l =>
    if fs.entryAt? l ≠ some .directory then return fs
    for directory in Exclusion.levels l do
      fs ← rules fs directory
    try tree fs l catch _ => return fs
  | .error _ => return fs

end Copy

/-- Copies what arguments need.  The files that a run stores are those of its preview, so they are
copied when the preview has told them. -/
def copyFor (walker : Walker) (arguments : List String) (fs : FileSystem) : IO FileSystem := do
  match Request.ofArguments arguments with
  | .run invocation =>
    let mut fs ← Copy.route fs (invocation.config.getD Config.standardFile)
    match (Config.load invocation.config).run.run ⟨fs, []⟩ with
    | (.ok config, _) =>
      let config := config.withArguments invocation.arguments
      fs ← Copy.input fs config.input
      fs ← Copy.route fs config.outputDir
      match (Run.run walker config .dryRun).run.run ⟨fs, []⟩ with
      | (.ok outcome, _) => outcome.results.foldlM (fun fs t => Copy.route fs t.path) fs
      | (.error _, _) => return fs
    | (.error _, _) => return fs
  | .help | .version | .refused _ => return fs

/-- Stores what has changed.  A directory comes before its contents. -/
def storeChanges (before after : FileSystem) : IO Unit := do
  for (l, e) in after.entries do
    if before.entryAt? l ≠ some e then
      match e with
      | .directory => IO.FS.createDir (pathOf l)
      | .file content => IO.FS.writeBinFile (pathOf l) content

end SchemaGen.Program

open SchemaGen SchemaGen.Program in
/-- Runs the command in the working directory. -/
def main (arguments : List String) : IO UInt32 := do
  let here := (Path.pieces (toString (← IO.currentDir))).filter (· ≠ "")
  let walker := Exclusion.walker (← personalRules here)
  let copy ← copyFor walker arguments (← Copy.route ⟨here, []⟩ ".")
  let (output, session) := (CommandLine.execute walker arguments false).run ⟨copy, []⟩
  storeChanges copy session.files
  IO.print output.stdout
  IO.eprint output.stderr
  return output.status.toUInt32
