/-!
# Severities

How much an offence matters. Settings give severities as levels: 1 is a warning,
2 an error, and 0 switches a rule off.
-/

namespace SheetLint
set_option autoImplicit false

/-- How much an offence matters. -/
inductive Severity where
  | warning
  | error
deriving DecidableEq, Repr, Inhabited

namespace Severity

/-- The name of a severity. -/
def name : Severity → String
  | warning => "warning"
  | error => "error"

/-- The level of a severity. -/
def level : Severity → Nat
  | warning => 1
  | error => 2

/-- The severity of a level, none for a level that is neither 1 nor 2. -/
def ofLevel? (level : Int) : Option Severity :=
  if level = 1 then some warning else if level = 2 then some error else none

/-- What a level in the settings asks for: off for 0, else a severity. A level that asks for
nothing is handed back. -/
def ofSetting (level : Int) : Except Int (Option Severity) :=
  if level = 0 then .ok none
  else match ofLevel? level with
    | some s => .ok (some s)
    | none => .error level

/-- Why a level is no severity. -/
def refusal (level : Int) : String :=
  s!"invalid severity {level}, expected 1 or 2"

end Severity
end SheetLint
