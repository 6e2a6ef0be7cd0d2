import SheetLint.Detection
import SheetLint.FileContext

/-!
# Rules

A rule looks through a tree and lists its findings in the order it visits the
tree: offences, and nodes that it cannot make sense of. An offence is reported
under the rule's own name and severity, or in whatever terms the rule writes
out. Applying a rule writes its offences to a ledger up to the first node that
it cannot make sense of, which makes the rule fail there.
-/

namespace SheetLint
set_option autoImplicit false

/-- What a rule finds at a node: an offence to report under the rule's name and severity, an
offence that comes with its report, or something the rule cannot make sense of. -/
inductive Finding where
  | offence (node : Node) (message : String)
  | reported (detection : Detection)
  | malformed (node : Node) (problem : String)

/-- A node that a rule could not make sense of. -/
structure Malformed where
  kind : String
  position : Position
  problem : String
deriving DecidableEq, Repr, Inhabited

/-- The failure in words. -/
def Malformed.message (e : Malformed) : String :=
  s!"malformed `{e.kind}` node at {e.position.line}:{e.position.column}: {e.problem}"

/-- A rule: how it is called, how much its offences matter, and what it finds in a tree. -/
structure Rule where
  code : String
  name : String
  description : String := ""
  severity : Severity := .warning
  findings : FileContext → Node → List Finding

/-- What applying a rule leaves: the ledger, and the failure that stopped the rule, if any. -/
structure Outcome where
  ledger : Ledger Detection
  failure : Option Malformed

namespace Rule

/-- The ledger after the offences among the findings, up to the first malformed node. -/
def record (name : String) (severity : Severity) : List Finding → Ledger Detection → Outcome
  | [], ledger => ⟨ledger, none⟩
  | .offence node message :: rest, ledger =>
    record name severity rest (ledger.add (.ofNode name severity node message))
  | .reported detection :: rest, ledger => record name severity rest (ledger.add detection)
  | .malformed node problem :: _, ledger => ⟨ledger, some ⟨node.kind, node.start, problem⟩⟩

/-- Applies the rule to a tree, adding to `ledger`. -/
def detect (rule : Rule) (context : FileContext) (tree : Node) (ledger : Ledger Detection) : Outcome :=
  record rule.name rule.severity (rule.findings context tree) ledger

/-- The rule with another severity. -/
def withSeverity (rule : Rule) (severity : Severity) : Rule :=
  { rule with severity := severity }

end Rule
end SheetLint
