import SheetLint.Severity
import SheetLint.Ledger

/-!
# Detections

A detection is what a rule reports about one node: where it starts, which rule,
what is wrong, how much it matters, and the node's shape. Detections are put in
order by position, those at one position staying in the order they came.
-/

namespace SheetLint
set_option autoImplicit false

/-- What a rule reports about a node. -/
structure Detection where
  position : Position
  rule : String
  message : String
  severity : Severity
  shape : Shape
deriving DecidableEq, Repr, Inhabited

instance : Shaped Detection where
  shape d := d.shape

namespace Detection

/-- The detection of `rule` at a node. -/
def ofNode (rule : String) (severity : Severity) (node : Node) (message : String) : Detection :=
  ⟨node.start, rule, message, severity, Shaped.shape node⟩

/-- The detection on one line. -/
def line (d : Detection) : String :=
  s!"  {d.position.line}:{d.position.column}  {d.severity.name}  {d.message}  {d.rule}"

/-- The detections by position. -/
def sorted (ds : List Detection) : List Detection :=
  ds.mergeSort fun a b => a.position.leB b.position

end Detection

/-- The entries of a ledger by position. -/
def Ledger.sorted (ledger : Ledger Detection) : List Detection :=
  Detection.sorted ledger.entries

end SheetLint
