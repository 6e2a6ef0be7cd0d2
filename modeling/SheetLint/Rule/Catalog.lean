import SheetLint.Config
import SheetLint.Rule.BlockSpacing
import SheetLint.Rule.DeclarationOrder
import SheetLint.Rule.HexCase
import SheetLint.Rule.HexDigits
import SheetLint.Rule.ZeroUnit

/-!
# The built-in rules

The five rules, with their default options or with those of a configuration,
and the choice of rules by name or code. Only three options mean anything: the
order of declarations, the case of colors and the mode of block spacing. They
are checked in this order, for rules that are off as well.
-/

namespace SheetLint
set_option autoImplicit false

/-- The policy that the options of `rule` ask for. -/
def Order.Policy.ofOptions (rule : String) (options : Toml.Table) :
    Except ConfigError Order.Policy :=
  match options.get? "order" with
  | none => .ok .alphabetical
  | some (.string name) =>
    if name = "alphabetical" then .ok .alphabetical
    else match Order.Preset.ofName? name with
      | some p => .ok (.preset p)
      | none => .error (.option rule (.unknownOrder name))
  | some (.array names) =>
    match names.find? (·.string?.isNone) with
    | some v => .error (.option rule (.orderEntryType v.typeName))
    | none => .ok (.ofNames (names.filterMap Toml.Value.string?))
  | some v => .error (.option rule (.orderType v.typeName))

namespace Rule

/-- The style that options ask for. -/
def HexCase.styleOf (options : Toml.Table) : Except ConfigError HexCase.Style :=
  match options.get? "style" with
  | none => .ok .lowercase
  | some (.string s) =>
    if s = "lowercase" then .ok .lowercase
    else if s = "uppercase" then .ok .uppercase
    else .error (.option HexCase.name (.styleValue (.string s)))
  | some v => .error (.option HexCase.name (.styleValue v))

/-- The mode that options ask for. -/
def BlockSpacing.modeOf (options : Toml.Table) : Except ConfigError Bool :=
  match options.get? "include" with
  | none => .ok true
  | some (.boolean b) => .ok b
  | some v => .error (.option BlockSpacing.name (.notBoolean v.typeName))

/-- The five rules with the given options. -/
def builtins (policy : Order.Policy) (style : HexCase.Style) (mode : Bool) : List Rule :=
  [DeclarationOrder.rule policy, HexDigits.rule, HexCase.rule style, ZeroUnit.rule,
    BlockSpacing.rule mode]

/-- Every rule with its default options. -/
def all : List Rule := builtins .alphabetical .lowercase true

/-- The rules that rarely need tuning. -/
def recommended : List Rule := [DeclarationOrder.rule .alphabetical, HexDigits.rule, ZeroUnit.rule]

/-- The options that a configuration gives a rule. -/
def optionsIn (config : Config) (rule : String) : Toml.Table :=
  ((config.setting? rule).getD {}).options

/-- Every rule with the options of a configuration. -/
def ofConfig (config : Config) : Except ConfigError (List Rule) :=
  match Order.Policy.ofOptions DeclarationOrder.name (optionsIn config DeclarationOrder.name) with
  | .error e => .error e
  | .ok policy =>
    match HexCase.styleOf (optionsIn config HexCase.name) with
    | .error e => .error e
    | .ok style =>
      match BlockSpacing.modeOf (optionsIn config BlockSpacing.name) with
      | .error e => .error e
      | .ok mode => .ok (builtins policy style mode)

/-- Whether two texts agree up to the case of ASCII letters. -/
def sameUpToCaseB (a b : String) : Bool :=
  a.toList.map Char.toLower == b.toList.map Char.toLower

/-- Whether a selection lists the rule, by its name or its code. -/
def selectedB (selection : List String) (rule : Rule) : Bool :=
  selection.any fun s => s == rule.name || sameUpToCaseB s rule.code

/-- The rules that a selection lists, in their own order. -/
def select (rules : List Rule) (selection : List String) : List Rule :=
  rules.filter (selectedB selection)

/-- The rule of a name, with the given options; none where no rule has the name. -/
def named? (name : String) (options : Toml.Table) : Option (Except ConfigError Rule) :=
  if name = DeclarationOrder.name then
    some ((Order.Policy.ofOptions name options).map DeclarationOrder.rule)
  else if name = HexDigits.name then some (.ok HexDigits.rule)
  else if name = HexCase.name then some ((HexCase.styleOf options).map HexCase.rule)
  else if name = ZeroUnit.name then some (.ok ZeroUnit.rule)
  else if name = BlockSpacing.name then some ((BlockSpacing.modeOf options).map BlockSpacing.rule)
  else none

end Rule
end SheetLint
