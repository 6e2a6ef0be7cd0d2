import SheetLint.Command.Check
import SheetLint.Command.Listing
import SheetLint.Command.Starter

/-!
# The program

A run of the program takes the environment, the files and the arguments, and
gives what it shows, why it failed if it did, its exit status and the files it
leaves. The words in which usage is explained are not laid down here, only when
they are shown.
-/

namespace SheetLint.Command
set_option autoImplicit false

/-- What a run of the program does. -/
structure Effect where
  exit : Nat
  output : String := ""
  /-- The error and its causes, outermost first. -/
  failure : List String := []
  /-- Whether it is explained how to call the program. -/
  usage : Bool := false
  files : FileSystem

/-- The name and version of the program. -/
def versionText : String := "sass-lint 0.1.0\n"

/-- What is done where the arguments ask for no task. -/
def stopped (fs : FileSystem) : Stop → Effect
  | .usage => { exit := 2, usage := true, files := fs }
  | .help => { exit := 0, usage := true, files := fs }
  | .version => { exit := 0, output := versionText, files := fs }

/-- What a task does. -/
def perform (fs : FileSystem) (env : Environment) (request : Request) : Effect :=
  match request.task with
  | .check options =>
    match check fs (checkSource fs env request.config options) options with
    | .error e => { exit := 1, failure := e.chain, files := fs }
    | .ok report =>
      { exit := if report.hasErrors then 1 else 0, output := report.render options.format, files := fs }
  | .listRules => { exit := 0, output := listing, files := fs }
  | .init force =>
    match writeStarter fs force with
    | .error e => { exit := 1, failure := e.chain, files := fs }
    | .ok files => { exit := 0, output := starterNotice, files := files }

/-- What the program does with its arguments. -/
def run (fs : FileSystem) (env : Environment) (arguments : List String) : Effect :=
  match parse env.config arguments with
  | .error stop => stopped fs stop
  | .ok request => perform fs env request

end SheetLint.Command
