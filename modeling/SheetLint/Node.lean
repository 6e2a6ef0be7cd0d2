/-!
# Syntax trees

A node of a stylesheet's syntax tree is a leaf with a text or a branch with
children, and carries its kind, the dialect of the stylesheet, where it starts
and stops, and a list of indexes that the parser keeps and the linter does not
use.
-/

namespace SheetLint
set_option autoImplicit false

/-- The dialect that a stylesheet is written in. -/
inductive Dialect where
  | scss
  | sass
  | css
  | less
deriving DecidableEq, Repr, Inhabited

namespace Dialect

/-- The name of a dialect, which is also the file extension of its stylesheets. -/
def name : Dialect → String
  | scss => "scss"
  | sass => "sass"
  | css => "css"
  | less => "less"

/-- The dialects. -/
def all : List Dialect := [scss, sass, css, less]

/-- The dialect of a name. -/
def ofName? (s : String) : Option Dialect :=
  all.find? fun d => d.name == s

end Dialect

/-- The largest number that a tree can hold; its numbers are of 64 bits. -/
def Node.maxNat : Nat := Nat.pow 2 64 - 1

/-- A place in a source text. -/
structure Position where
  line : Nat
  column : Nat
deriving DecidableEq, Repr, Inhabited

namespace Position

/-- Whether `a` is at or before `b`: by line, then by column. -/
def leB (a b : Position) : Bool :=
  decide (a.line < b.line) || (a.line == b.line && decide (a.column ≤ b.column))

/-- Comparison by line, then by column. -/
def compare (a b : Position) : Ordering :=
  (Ord.compare a.line b.line).then (Ord.compare a.column b.column)

/-- The number of the line after that of the position. After the largest number it starts over from 0. -/
def nextLine (p : Position) : Nat := (p.line + 1) % (Node.maxNat + 1)

theorem nextLine_of_lt {p : Position} (fits : p.line < Node.maxNat) : p.nextLine = p.line + 1 :=
  Nat.mod_eq_of_lt (Nat.succ_lt_succ fits)

end Position

/-- What a node carries beside its content. -/
structure NodeInfo where
  kind : String
  dialect : Dialect
  start : Position
  stop : Position
  indexes : List Nat
deriving DecidableEq, Repr, Inhabited

/-- A node of a syntax tree. -/
inductive Node where
  | leaf (info : NodeInfo) (text : String)
  | branch (info : NodeInfo) (children : List Node)
deriving Repr, Inhabited

namespace Node

/-- What the node carries beside its content. -/
def info : Node → NodeInfo
  | leaf i _ => i
  | branch i _ => i

/-- The kind of the node. -/
def kind (n : Node) : String := n.info.kind

/-- The dialect of the node's stylesheet. -/
def dialect (n : Node) : Dialect := n.info.dialect

/-- Where the node starts. -/
def start (n : Node) : Position := n.info.start

/-- Where the node stops. -/
def stop (n : Node) : Position := n.info.stop

/-- Whether the node is of the given kind. -/
def isOf (n : Node) (kind : String) : Bool := n.kind == kind

/-- Whether the node is a branch. -/
def isBranch : Node → Bool
  | leaf _ _ => false
  | branch _ _ => true

/-- The children of a branch; a leaf has none. -/
def children : Node → List Node
  | leaf _ _ => []
  | branch _ cs => cs

/-- The text of a leaf. -/
def text? : Node → Option String
  | leaf _ t => some t
  | branch _ _ => none

/-- How much a node holds: the characters of a leaf's text or the children of a branch. -/
def contentLength : Node → Nat
  | leaf _ t => t.toList.length
  | branch _ cs => cs.length

/-- The first child of the given kind. -/
def first? (n : Node) (kind : String) : Option Node :=
  n.children.find? (·.isOf kind)

/-- The children of the given kind. -/
def childrenOf (n : Node) (kind : String) : List Node :=
  n.children.filter (·.isOf kind)

/-- The node's kind and extent on one line. -/
def brief (n : Node) : String :=
  s!"{n.kind}@{n.start.line}:{n.start.column}-{n.stop.line}:{n.stop.column}"

end Node
end SheetLint
