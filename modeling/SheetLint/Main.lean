import SheetLint.Command

/-!
# The command line

The program proper works on a file system as a value. What a run may look at is
gathered in three steps: the candidates for the configuration, the names below
the directories that the include patterns lead to, and the content of the files
discovered among them.
-/

namespace SheetLint.Terminal
set_option autoImplicit false

/-- The file system with what stands at a path, a directory without its entries. -/
def readHere (fs : FileSystem) (path : List Char) : IO FileSystem := do
  let place := (← IO.currentDir) / String.ofList path
  try
    if ← place.isDir then return fs.plantDirectory path
    else return fs.plantFile path (← IO.FS.readBinFile place)
  catch _ => return fs

/-- The names below a path, files without their content. Links to directories are not followed. -/
partial def readNames (path : String) : IO FileTree := do
  let place := (← IO.currentDir) / path
  if ← place.isDir then
    let entries ← place.readDir
    let trees ← entries.toList.filterMapM fun e => do
      let linked := (← e.path.symlinkMetadata).type == .symlink
      if linked && (← e.path.isDir) then return none
      return some (e.fileName, ← readNames e.path.toString)
    return .directory (trees.foldl (fun es e => FileTree.putEntry e.1 e.2 es) [])
  else return .file ByteArray.empty

/-- The file system with what stands at paths. -/
def gatherFiles (fs : FileSystem) (paths : List (List Char)) : IO FileSystem :=
  paths.foldlM readHere fs

/-- The file system with the names below paths. -/
def gatherNames (fs : FileSystem) (paths : List (List Char)) : IO FileSystem :=
  paths.foldlM (fun fs path => do
    if ← ((← IO.currentDir) / String.ofList path).pathExists then
      let tree ← readNames (String.ofList path)
      return fs.plant path fun _ => tree
    else return fs) fs

/-- The file system with all that a check looks at. -/
def gatherCheck (fs : FileSystem) (env : Environment) (named : Option String)
    (options : Command.CheckOptions) : IO FileSystem := do
  let fs ← gatherFiles fs (ConfigSource.candidates env (options.path.getD ".") named)
  match Command.planCheck fs (Command.checkSource fs env named options) options with
  | .error _ => return fs
  | .ok analysis =>
    let known ← gatherNames fs (analysis.includes.map fun i =>
      Glob.base (analysis.linter.root.toList ++ '/' :: i.toList))
    match analysis.discover known.source.toFileFinder with
    | .error _ => return known
    | .ok paths => gatherFiles known paths

/-- The file system with all that a request looks at. -/
def gather (fs : FileSystem) (env : Environment) (request : Command.Request) : IO FileSystem :=
  match request.task with
  | .check options => gatherCheck fs env request.config options
  | .listRules => return fs
  | .init _ => gatherFiles fs [Command.starterPath.toList]

/-- The file system with nothing in it but the working directory. -/
def emptyFiles : IO FileSystem := do
  let here := (← IO.currentDir).toString.toList
  let names := ((Text.pieces '/' here).filter fun s => !Path.idleB s).map String.ofList
  return ⟨FileTree.putDirectory names (.directory []), names⟩

/-- Writes the starter configuration where a run has changed it. -/
def writeBack (before after : FileSystem) : IO Unit :=
  let path := Command.starterPath
  match before.read path.toList, after.read path.toList with
  | .ok old, .ok new => if old == new then return else IO.FS.writeFile path new
  | _, .ok new => IO.FS.writeFile path new
  | _, _ => return

/-- Shows a failure and its causes. -/
def showFailure (failure : List String) : IO Unit := do
  match failure with
  | [] => return
  | problem :: causes =>
    IO.eprintln s!"Error: {problem}"
    if !causes.isEmpty then
      IO.eprintln "\nCaused by:"
      for cause in causes do
        IO.eprintln s!"    {cause}"

/-- Runs the program with its arguments and gives its exit status. -/
def run (arguments : List String) : IO UInt32 := do
  let env : Environment :=
    { config := ← IO.getEnv "SASS_LINT_CONFIG"
      configDir := ← IO.getEnv "SASS_LINT_CONFIG_DIR"
      home := ← IO.getEnv "HOME" }
  let start ← emptyFiles
  let files ← match Command.parse env.config arguments with
    | .error _ => pure start
    | .ok request => gather start env request
  let effect := Command.run files env arguments
  writeBack files effect.files
  IO.print effect.output
  showFailure effect.failure
  return effect.exit.toUInt32

end SheetLint.Terminal

/-- The command line of the linter. -/
def main (arguments : List String) : IO UInt32 :=
  SheetLint.Terminal.run arguments
