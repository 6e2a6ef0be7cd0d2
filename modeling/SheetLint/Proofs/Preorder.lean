import SheetLint.Node.Walk

/-!
# The walk with a stack is the recursive pre-order

A walk with a stack visits each tree of the stack in pre-order, one after the
other, so `descendants` is `preorder`. Proofs about rules go by the recursive
form. Where the order does not matter, `mem_descendants_iff` says which nodes
the walk comes to: those that stand in the tree, at any depth.
-/

namespace SheetLint.Node
set_option autoImplicit false

theorem preorder_eq (n : Node) : n.preorder = n :: preorderAll n.children := by
  cases n <;> simp [preorder, children, preorderAll]

theorem preorderAll_append (xs ys : List Node) :
    preorderAll (xs ++ ys) = preorderAll xs ++ preorderAll ys := by
  induction xs with
  | nil => rfl
  | cons x xs ih => simp [preorderAll, ih]

theorem visit_eq_preorderAll (stack : List Node) : visit stack = preorderAll stack := by
  fun_induction visit stack with
  | case1 => rfl
  | case2 n stack ih => rw [ih, preorderAll_append, preorderAll, preorder_eq n, List.cons_append]

theorem descendants_eq_preorder (n : Node) : n.descendants = n.preorder := by
  rw [descendants, visit_eq_preorderAll, preorderAll, preorderAll, List.append_nil]

/-- The node stands in a tree: it is the root, or it stands in the tree of one of the root's children. -/
inductive Within (n : Node) : Node → Prop where
  | root : Within n n
  | child {parent c : Node} (below : c ∈ parent.children) (inside : Within n c) : Within n parent

/-- A walk comes to the nodes of the trees on its stack, and to no others. -/
theorem mem_visit_iff {n : Node} {stack : List Node} : n ∈ visit stack ↔ ∃ tree ∈ stack, n.Within tree := by
  fun_induction visit stack with
  | case1 => simp
  | case2 top stack ih =>
    rw [List.mem_cons, ih]
    constructor
    · rintro (rfl | ⟨tree, mem, inside⟩)
      · exact ⟨n, .head _, .root⟩
      · rcases List.mem_append.1 mem with below | later
        · exact ⟨top, .head _, .child below inside⟩
        · exact ⟨tree, .tail _ later, inside⟩
    · rintro ⟨tree, mem, inside⟩
      rcases List.mem_cons.1 mem with rfl | later
      · cases inside with
        | root => exact Or.inl rfl
        | child below inside => exact Or.inr ⟨_, List.mem_append_left _ below, inside⟩
      · exact Or.inr ⟨tree, List.mem_append_right _ later, inside⟩

theorem mem_descendants_iff {n tree : Node} : n ∈ tree.descendants ↔ n.Within tree := by
  rw [descendants, mem_visit_iff]
  simp

theorem mem_preorderAll {m : Node} {ns : List Node} : m ∈ preorderAll ns ↔ ∃ n ∈ ns, m ∈ n.preorder := by
  induction ns with
  | nil => simp [preorderAll]
  | cons n ns ih => simp [preorderAll, ih]

theorem self_mem_preorder (n : Node) : n ∈ n.preorder := by
  rw [preorder_eq]
  exact List.mem_cons_self

mutual

/-- The children of a node of a tree are nodes of the tree. -/
theorem mem_preorder_of_child {parent child : Node} (below : child ∈ parent.children) :
    (tree : Node) → parent ∈ tree.preorder → child ∈ tree.preorder
  | leaf i t, mem => by
    rw [preorder, List.mem_singleton] at mem
    rw [mem] at below
    exact absurd below List.not_mem_nil
  | branch i cs, mem => by
    rw [preorder, List.mem_cons] at mem ⊢
    rcases mem with rfl | mem
    · exact Or.inr (mem_preorderAll.2 ⟨child, below, self_mem_preorder child⟩)
    · exact Or.inr (mem_preorderAll_of_child below cs mem)

theorem mem_preorderAll_of_child {parent child : Node} (below : child ∈ parent.children) :
    (ns : List Node) → parent ∈ preorderAll ns → child ∈ preorderAll ns
  | [], mem => absurd mem List.not_mem_nil
  | n :: rest, mem => by
    rw [preorderAll, List.mem_append] at mem ⊢
    rcases mem with mem | mem
    · exact Or.inl (mem_preorder_of_child below n mem)
    · exact Or.inr (mem_preorderAll_of_child below rest mem)

end

end SheetLint.Node
