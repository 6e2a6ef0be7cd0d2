import SheetLint.Discovery
import SheetLint.FileError
import SheetLint.FileTree
import SheetLint.Glob.Expand
import SheetLint.Linter

/-!
# Linting the files below a root

An analysis discovers the dumps below its root and lints each. A file that is
no dump is passed over unless the analysis is strict; a file that cannot be
read and a rule that fails end the run.
-/

namespace SheetLint
set_option autoImplicit false

/-- Why an analysis failed. -/
inductive AnalysisError where
  | unreadable (cause : FileError)
  | invalidDump (path : String)
  | badPattern (cause : Glob.Error)
  | ruleFailed (failure : RuleFailure)
deriving DecidableEq, Repr

namespace AnalysisError

/-- The error in words. -/
def message : AnalysisError → String
  | unreadable cause => s!"IO error: {cause.message}"
  | invalidDump path => s!"Invalid syntax tree in {path}"
  | badPattern cause => s!"Invalid glob pattern: {cause.message}"
  | ruleFailed failure => failure.message

/-- The error and its cause, in words. -/
def chain (e : AnalysisError) : List String :=
  match e with
  | unreadable cause => [e.message, cause.message]
  | invalidDump _ => [e.message]
  | badPattern cause => [e.message, cause.message]
  | ruleFailed failure => [e.message, failure.cause.message]

end AnalysisError

/-- Where dumps are found and read. -/
structure FileSource extends FileFinder where
  /-- The text of the file at a path. -/
  read : List Char → Except FileError String

/-- The files of a file system. -/
def FileSystem.source (fs : FileSystem) : FileSource where
  glob := Glob.expand fs
  isFile := fs.isFile
  read := fs.read

/-- What is asked of a run; what is left open comes from the configuration. -/
structure AnalysisOptions where
  root : Option String := none
  includes : List String := []
  excludes : List String := []
  config : Option Config := none
  rules : List Rule := []
  strict : Bool := false

/-- A run: the linter, which files it looks at, and whether a file that is no dump ends it. -/
structure Analysis where
  linter : Linter
  includes : List String
  excludes : List String
  strict : Bool

namespace Analysis

/-- The run that options ask for, seen from a working directory. -/
def ofOptions (o : AnalysisOptions) (workPath : List Char) : Analysis :=
  let config := o.config.getD {}
  let root := o.root.getD (o.config.elim "." (·.scope.root))
  { linter := ⟨String.ofList (Path.join workPath root.toList), o.rules, config⟩
    includes := if o.includes.isEmpty then config.scope.includes else o.includes
    excludes := o.excludes ++ config.scope.excludes
    strict := o.strict }

/-- The paths of the files that the run looks at. -/
def discover (a : Analysis) (finder : FileFinder) : Except Glob.Error (List (List Char)) :=
  Discovery.discover finder a.linter.root.toList (a.includes.map String.toList)
    (a.excludes.map String.toList)

/-- The report on the dump at a path. -/
def lintFile (a : Analysis) (source : FileSource) (path : List Char) :
    Except AnalysisError FileReport :=
  match source.read path with
  | .error cause => .error (.unreadable cause)
  | .ok text =>
    match Node.read? text with
    | none => .error (.invalidDump (String.ofList path))
    | some tree =>
      match a.linter.lintTree (String.ofList path) tree with
      | .error failure => .error (.ruleFailed failure)
      | .ok report => .ok report

/-- The reports on the dumps at paths. -/
def lintFiles (a : Analysis) (source : FileSource) :
    List (List Char) → Except AnalysisError (List FileReport)
  | [] => .ok []
  | path :: rest =>
    match a.lintFile source path with
    | .error (.invalidDump p) =>
      if a.strict then .error (.invalidDump p) else a.lintFiles source rest
    | .error e => .error e
    | .ok report =>
      match a.lintFiles source rest with
      | .error e => .error e
      | .ok reports => .ok (report :: reports)

/-- The report on all files that the run looks at. -/
def run (a : Analysis) (source : FileSource) : Except AnalysisError Report :=
  match a.discover source.toFileFinder with
  | .error cause => .error (.badPattern cause)
  | .ok paths =>
    match a.lintFiles source paths with
    | .error e => .error e
    | .ok files => .ok ⟨files⟩

end Analysis
end SheetLint
