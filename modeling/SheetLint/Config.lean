import SheetLint.Setting
import SheetLint.Toml.Reader

/-!
# Configurations

A configuration says which files are linted and what applies to each rule. Its
entries for rules are resolved in the order of their names, so of several bad
ones the first in that order is reported. Without a section on files, packages
under `node_modules` are left out; a section that is there stands for itself.
-/

namespace SheetLint
set_option autoImplicit false

/-- Which files are linted. -/
structure Scope where
  root : String
  includes : List String
  excludes : List String
deriving DecidableEq, Repr

namespace Scope

/-- The scope of a section that says nothing. -/
def blank : Scope := ⟨".", ["**/*.json"], []⟩

/-- The scope without a section. -/
def standard : Scope := { blank with excludes := ["**/node_modules/**"] }

/-- The strings of an array of strings. -/
def strings? : Toml.Item → Option (List String)
  | .array items => items.mapM Toml.Item.string?
  | _ => none

/-- What `read` makes of an item, or `other` where there is none. -/
def orElse {α : Type} (read : Toml.Item → Option α) (other : α) : Option Toml.Item → Option α
  | none => some other
  | some i => read i

/-- The scope of the items for its fields. -/
def ofFields? (root includes excludes : Option Toml.Item) : Option Scope := do
  some ⟨← orElse Toml.Item.string? blank.root root,
    ← orElse strings? blank.includes includes,
    ← orElse strings? blank.excludes excludes⟩

/-- The scope that a section gives, as a table of its fields or an array of them in order. A date
has no fields at all. -/
def ofItem? : Toml.Item → Option Scope
  | .table _ entries =>
    ofFields? (entries.lookup "root") (entries.lookup "include") (entries.lookup "exclude")
  | .array items => ofFields? items[0]? items[1]? items[2]?
  | .scalar (.datetime _) => some blank
  | _ => none

end Scope

/-- A configuration: the scope, and the settings of rules by name, in the order of the names. -/
structure Config where
  scope : Scope := .standard
  rules : List (String × Setting) := []

namespace Config

/-- The table of entries for rules that an item gives. A date is seen as the table that carries its
text. -/
def ruleTable? : Toml.Item → Option Toml.Table
  | .table _ entries => (Toml.Item.settleEntries? entries).map Toml.Table.ofEntries
  | .scalar (.datetime d) => some [(Toml.dateKey, .string d.text)]
  | _ => none

/-- The settings that entries give, up to the first that gives none. -/
def resolveRules : Toml.Table → Except ConfigError (List (String × Setting))
  | [] => .ok []
  | (name, v) :: rest =>
    match Setting.resolve name v with
    | .error e => .error e
    | .ok s =>
      match resolveRules rest with
      | .error e => .error e
      | .ok settings => .ok ((name, s) :: settings)

/-- The scope and the entries for rules of a document. -/
def sections? (document : Toml.Items) : Option (Scope × Toml.Table) := do
  let scope ← match document.lookup "analyzer" with
    | none => some .standard
    | some i => Scope.ofItem? i
  let rules ← match document.lookup "rules" with
    | none => some []
    | some i => ruleTable? i
  some (scope, rules)

/-- The configuration of a document. -/
def ofDocument (document : Toml.Items) : Except ConfigError Config :=
  match sections? document with
  | none => .error .unparsable
  | some (scope, rules) =>
    match resolveRules rules with
    | .error e => .error e
    | .ok settings => .ok ⟨scope, settings⟩

/-- The configuration that a text is. -/
def parse (text : String) : Except ConfigError Config :=
  match Toml.read? text with
  | none => .error .unparsable
  | some document => ofDocument document

/-- The setting of a rule. -/
def setting? (c : Config) (rule : String) : Option Setting := c.rules.lookup rule

/-- Whether a rule is on; a rule that is not mentioned is. -/
def enabledB (c : Config) (rule : String) : Bool := (c.setting? rule).all Setting.enabledB

/-- The severity that the configuration gives a rule. -/
def severity? (c : Config) (rule : String) : Option Severity := (c.setting? rule).bind Setting.severity

end Config
end SheetLint
