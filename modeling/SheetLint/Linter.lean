import SheetLint.Report
import SheetLint.Rule.Catalog
import SheetLint.Suppression

/-!
# Linting a tree

Each rule that is on is applied to the tree with a ledger of its own. Its
detections take the severity that the configuration gives the rule, those on
lines where a comment switches the rule off are left out, and the rest of all
rules make up the report. The first rule that fails makes the run fail.
-/

namespace SheetLint
set_option autoImplicit false

/-- The rules, how they are configured, and the directory that paths are reported from. -/
structure Linter where
  root : String
  rules : List Rule
  config : Config := {}

/-- A rule failed on a file. -/
structure RuleFailure where
  rule : String
  path : String
  cause : Malformed
deriving DecidableEq, Repr

/-- The failure in words. -/
def RuleFailure.message (f : RuleFailure) : String :=
  s!"Rule '{f.rule}' failed on {f.path}: {f.cause.message}"

namespace Linter

/-- The rules that are on. -/
def enabledRules (l : Linter) : List Rule :=
  l.rules.filter fun r => l.config.enabledB r.name

/-- The detection with the severity that the configuration gives a rule. -/
def adjust (config : Config) (rule : String) (d : Detection) : Detection :=
  { d with severity := (config.severity? rule).getD d.severity }

/-- The messages of one rule on a tree. -/
def messagesOf (config : Config) (context : FileContext) (suppressions : Suppression)
    (tree : Node) (rule : Rule) : Except RuleFailure (List Detection) :=
  let outcome := rule.detect context tree .empty
  match outcome.failure with
  | some cause => .error ⟨rule.name, context.relativePath, cause⟩
  | none =>
    .ok ((outcome.ledger.entries.map (adjust config rule.name)).filter fun d =>
      !suppressions.disabledB d.position.line rule.name)

/-- The messages of rules on a tree, rule by rule, up to the first rule that fails. -/
def messagesOfAll (config : Config) (context : FileContext) (suppressions : Suppression)
    (tree : Node) : List Rule → Except RuleFailure (List Detection)
  | [] => .ok []
  | rule :: rest =>
    match messagesOf config context suppressions tree rule with
    | .error f => .error f
    | .ok messages =>
      match messagesOfAll config context suppressions tree rest with
      | .error f => .error f
      | .ok more => .ok (messages ++ more)

/-- The report on the tree at a path. -/
def lintTree (l : Linter) (path : String) (tree : Node) : Except RuleFailure FileReport :=
  let context := FileContext.of path l.root tree
  match messagesOfAll l.config context (Suppression.ofTree tree) tree l.enabledRules with
  | .error f => .error f
  | .ok messages => .ok (.ofMessages context.relativePath messages)

end Linter
end SheetLint
