import SheetLint.Config.Source

/-!
# The starter configuration

`init` writes a configuration that spells out the defaults. A file that is
there already is kept unless the command is forced.
-/

namespace SheetLint.Command
set_option autoImplicit false

/-- The text of the starter configuration. -/
def starterText : String :=
  "# sass-lint configuration\n" ++
  "\n" ++
  "[analyzer]\n" ++
  "# Directory holding the parser's JSON dumps (default: current directory)\n" ++
  "# root = \"./build/trees\"\n" ++
  "\n" ++
  "# Dumps to lint, relative to root\n" ++
  "include = [\"**/*.json\"]\n" ++
  "\n" ++
  "# Glob patterns to exclude from analysis\n" ++
  "exclude = [\n" ++
  "    \"**/node_modules/**\",\n" ++
  "]\n" ++
  "\n" ++
  "# Rule settings: 0 = off, 1 = warning, 2 = error,\n" ++
  "# or [severity, \x7b options \x7d]. Rules not listed run with their defaults.\n" ++
  "\n" ++
  "[rules]\n" ++
  "property-sort-order = [1, \x7b order = \"alphabetical\" \x7d]\n" ++
  "no-invalid-hex = 2\n" ++
  "hex-notation = [1, \x7b style = \"lowercase\" \x7d]\n" ++
  "zero-unit = 1\n" ++
  "empty-line-between-blocks = [1, \x7b include = true \x7d]\n"

/-- Why the starter configuration was not written. -/
inductive StarterError where
  | alreadyThere (path : String)
  | unwritable (path : String) (cause : FileError)
deriving DecidableEq, Repr

/-- The error and its cause, in words. -/
def StarterError.chain : StarterError → List String
  | alreadyThere path =>
    [s!"Configuration file already exists at {path}. Use --force to overwrite."]
  | unwritable path cause => [s!"Failed to write {path}", cause.message]

/-- The path of the starter configuration. -/
def starterPath : String := "./" ++ Config.fileName

/-- The file system with the starter configuration in the working directory. -/
def writeStarter (fs : FileSystem) (force : Bool) : Except StarterError FileSystem :=
  if fs.existsB starterPath.toList && !force then .error (.alreadyThere starterPath)
  else match fs.write starterPath.toList starterText with
    | .error cause => .error (.unwritable starterPath cause)
    | .ok fs => .ok fs

/-- What is said after the starter configuration was written. -/
def starterNotice : String :=
  s!"Created {Config.fileName}\n" ++
  "\nNext steps:\n" ++
  s!"  1. Edit {Config.fileName} to configure rules\n" ++
  "  2. Run: sass-lint check\n"

end SheetLint.Command
