import SheetLint.Analysis
import SheetLint.Command.Arguments
import SheetLint.Config.Source

/-!
# Checking

`check` reads the configuration, builds the rules, runs the analysis and shows
the report. The run passes unless the report counts an error.
-/

namespace SheetLint.Command
set_option autoImplicit false

/-- Why a check could not be made. -/
inductive CheckError where
  | config (path : String) (cause : ConfigError)
  | rules (cause : ConfigError)
  | analysis (cause : AnalysisError)

/-- The first line of a text. -/
def firstLine (text : String) : String :=
  let line := text.toList.takeWhile (· != '\n')
  String.ofList (if line.length < text.toList.length ∧ line.getLast? = some '\r' then line.dropLast
    else line)

/-- The error and its causes, outermost first, each by its first line. -/
def CheckError.chain (e : CheckError) : List String :=
  (match e with
  | config path cause => [s!"Failed to load config: {path}", cause.code]
  | rules cause => [cause.code]
  | analysis cause => "Analysis failed" :: cause.chain).map firstLine

/-- The rules of a configuration, less those that a list of names and codes leaves out. -/
def chosenRules (config : Config) (names : Option String) : Except ConfigError (List Rule) :=
  match Rule.ofConfig config with
  | .error e => .error e
  | .ok rules =>
    match names with
    | none => .ok rules
    | some list =>
      .ok (Rule.select rules ((Text.pieces ',' list.toList).map fun s => String.ofList (Text.trim s)))

/-- The analysis that a check makes with the configuration of a source. -/
def planCheck (fs : FileSystem) (source : ConfigSource) (options : CheckOptions) :
    Except CheckError Analysis :=
  match Config.ofSource fs source with
  | .error e => .error (.config (source.path?.getD "") e)
  | .ok config =>
    match chosenRules config options.rules with
    | .error e => .error (.rules e)
    | .ok rules =>
      .ok (Analysis.ofOptions
        { root := options.path, excludes := options.excludes, config := some config, rules := rules }
        fs.workPath)

/-- The report of a check with the configuration of a source. -/
def check (fs : FileSystem) (source : ConfigSource) (options : CheckOptions) :
    Except CheckError Report :=
  match planCheck fs source options with
  | .error e => .error e
  | .ok analysis =>
    match analysis.run fs.source with
    | .error e => .error (.analysis e)
    | .ok report => .ok report

/-- The source of the configuration for a check. -/
def checkSource (fs : FileSystem) (env : Environment) (named : Option String)
    (options : CheckOptions) : ConfigSource :=
  ConfigSource.resolve fs env (options.path.getD ".") named

end SheetLint.Command
