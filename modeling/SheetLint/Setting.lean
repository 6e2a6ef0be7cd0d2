import SheetLint.FileError
import SheetLint.Severity
import SheetLint.Toml.Writer

/-!
# Settings of rules

An entry for a rule is a level, or a level and a table of options. Level 0
switches the rule off, 1 and 2 give it a severity.
-/

namespace SheetLint
set_option autoImplicit false

/-- What is wrong with the entry of a rule. -/
inductive SettingProblem where
  | level (n : Int)
  | notPair
  | wrongType (typeName : String)
deriving DecidableEq, Repr

/-- What is wrong with an option of a rule. -/
inductive OptionProblem where
  | unknownOrder (name : String)
  | orderEntryType (typeName : String)
  | orderType (typeName : String)
  | styleValue (v : Toml.Value)
  | notBoolean (typeName : String)

/-- Why a configuration cannot be used. -/
inductive ConfigError where
  | unreadable (path : String) (cause : FileError)
  | unparsable
  | setting (rule : String) (problem : SettingProblem)
  | option (rule : String) (problem : OptionProblem)

/-- The problem in words. -/
def SettingProblem.message : SettingProblem → String
  | level n => s!"severity must be 0 (off), 1 (warning) or 2 (error), found {n}"
  | notPair => "expected a two-element array [severity, \x7b options \x7d]"
  | wrongType t => s!"expected a severity or [severity, \x7b options \x7d], found {t}"

namespace OptionProblem

/-- The option that has the problem. -/
def optionName : OptionProblem → String
  | unknownOrder _ => "order"
  | orderEntryType _ => "order"
  | orderType _ => "order"
  | styleValue _ => "style"
  | notBoolean _ => "include"

/-- The problem in words. -/
def message : OptionProblem → String
  | unknownOrder name =>
    s!"unknown order `{name}`, expected alphabetical, recess, smacss, concentric or a list of properties"
  | orderEntryType t => s!"custom order entries must be property names, found {t}"
  | orderType t => s!"expected a preset name or an array of property names, found {t}"
  | styleValue v => "expected \"lowercase\" or \"uppercase\", found " ++ String.ofList v.shown
  | notBoolean t => s!"expected a boolean, found {t}"

end OptionProblem

namespace ConfigError

/-- The error in words. -/
def message : ConfigError → String
  | unreadable path cause => s!"Failed to read config file {path}: {cause.message}"
  | unparsable => "Failed to parse config"
  | setting rule problem => s!"Invalid setting for rule '{rule}': {problem.message}"
  | option rule problem =>
    s!"Invalid option '{problem.optionName}' for rule '{rule}': {problem.message}"

/-- The diagnostic code of the error. -/
def code : ConfigError → String
  | unreadable _ _ => "sass_lint::config::io"
  | unparsable => "sass_lint::config::parse"
  | setting _ _ => "sass_lint::config::rule"
  | option _ _ => "sass_lint::config::option"

end ConfigError

/-- What the configuration says about a rule; without a severity it is off. -/
structure Setting where
  severity : Option Severity := none
  options : Toml.Table := []

namespace Setting

/-- Whether the rule is on. -/
def enabledB (s : Setting) : Bool := s.severity.isSome

/-- The value of an option. -/
def option? (s : Setting) (key : String) : Option Toml.Value := s.options.get? key

/-- The setting of a level and options. -/
def ofLevel (rule : String) (level : Int) (options : Toml.Table) : Except ConfigError Setting :=
  match Severity.ofSetting level with
  | .ok severity => .ok ⟨severity, options⟩
  | .error n => .error (.setting rule (.level n))

/-- The setting that an entry for a rule gives. -/
def resolve (rule : String) : Toml.Value → Except ConfigError Setting
  | .integer level => ofLevel rule level []
  | .array [.integer level, .table options] => ofLevel rule level options
  | .array _ => .error (.setting rule .notPair)
  | v => .error (.setting rule (.wrongType v.typeName))

end Setting
end SheetLint
