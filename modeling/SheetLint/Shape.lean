import SheetLint.Node

/-!
# Shapes

The shape of a node is its fingerprint: its kind, the lines it starts and stops
on, and how much it holds. Nodes of one shape count as the same node.
-/

namespace SheetLint
set_option autoImplicit false

/-- The fingerprint of a node. -/
structure Shape where
  kind : String := ""
  startLine : Nat := 0
  stopLine : Nat := 0
  contentLength : Nat := 0
deriving DecidableEq, Repr, Inhabited

/-- Things that have a shape. -/
class Shaped (α : Type) where
  /-- The shape of a thing. -/
  shape : α → Shape

export Shaped (shape)

instance : Shaped Shape where
  shape s := s

instance : Shaped Node where
  shape n := ⟨n.kind, n.start.line, n.stop.line, n.contentLength⟩

/-- Whether two things have the same shape. -/
def sameShapeB {α β : Type} [Shaped α] [Shaped β] (a : α) (b : β) : Bool :=
  shape a == shape b

theorem sameShapeB_iff {α β : Type} [Shaped α] [Shaped β] {a : α} {b : β} :
    sameShapeB a b = true ↔ shape a = shape b := by
  simp [sameShapeB]

end SheetLint
