import SheetLint.Node

/-!
# Walking a tree

`preorder` lists a node and all below it, each node before its children and
children in order, by recursion on the tree. `descendants` gives the same list
with an explicit stack of the nodes still to visit; its length bounds the room a
walk needs, however deep the tree is.
-/

namespace SheetLint.Node
set_option autoImplicit false

mutual

/-- A node and all below it, each before its children. -/
def preorder : Node → List Node
  | leaf i t => [leaf i t]
  | branch i cs => branch i cs :: preorderAll cs

/-- The nodes of several trees, one tree after the other. -/
def preorderAll : List Node → List Node
  | [] => []
  | n :: rest => preorder n ++ preorderAll rest

end

mutual

/-- How many nodes a tree has. -/
def size : Node → Nat
  | leaf _ _ => 1
  | branch _ cs => 1 + sizeAll cs

/-- How many nodes several trees have. -/
def sizeAll : List Node → Nat
  | [] => 0
  | n :: rest => size n + sizeAll rest

end

mutual

/-- How many levels a tree has; a leaf has one. -/
def levels : Node → Nat
  | leaf _ _ => 1
  | branch _ cs => 1 + levelsAll cs

/-- The levels of the deepest of several trees. -/
def levelsAll : List Node → Nat
  | [] => 0
  | n :: rest => max (levels n) (levelsAll rest)

end

theorem sizeAll_append (xs ys : List Node) : sizeAll (xs ++ ys) = sizeAll xs + sizeAll ys := by
  induction xs with
  | nil => simp [sizeAll]
  | cons x xs ih => simp [sizeAll, ih]; omega

theorem size_eq (n : Node) : n.size = 1 + sizeAll n.children := by
  cases n <;> simp [size, children, sizeAll]

/-- The nodes that a walk with this stack has still to visit, in visiting order: the top of the
stack, then what is below it in the tree, then the rest of the stack. -/
def visit : List Node → List Node
  | [] => []
  | n :: stack => n :: visit (n.children ++ stack)
termination_by stack => sizeAll stack
decreasing_by simp only [sizeAll_append, sizeAll, size_eq n]; omega

/-- A node and all below it, in visiting order. -/
def descendants (n : Node) : List Node :=
  visit [n]

end SheetLint.Node
