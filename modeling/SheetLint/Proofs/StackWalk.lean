import SheetLint.Proofs.Preorder

/-!
# The walk with a stack, step by step

A walk keeps a stack of the nodes still to visit. One step takes the node on top and puts its
children in its place. What is left to visit is settled by the stack (`pending`): a step visits the
first of it and leaves the rest, so `k` steps visit the first `k` nodes and the walk is over after as
many steps as the tree has nodes (`run_eq`).

Equal nodes can stand in several places of a tree, so that each is visited once is said of places. An
address says which child to go to at each level; `addresses` lists those of a tree in the order of a
walk, each once, and none after an address below it.
-/

namespace SheetLint.Node
set_option autoImplicit false

/-- A walk under way. -/
structure Walk where
  /-- The nodes still to visit; the next one is the last. -/
  stack : List Node

namespace Walk

/-- The walk through a tree, at its start. -/
def start (tree : Node) : Walk := ⟨[tree]⟩

/-- One step: the node on top of the stack is visited, and its children are put on the stack, the first on top. -/
def next? (w : Walk) : Option (Node × Walk) :=
  w.stack.getLast?.map fun n => (n, ⟨w.stack.dropLast ++ n.children.reverse⟩)

/-- The nodes that up to `k` steps visit, and the walk after them. -/
def run : Nat → Walk → List Node × Walk
  | 0, w => ([], w)
  | k + 1, w =>
    match w.next? with
    | none => ([], w)
    | some (n, w') => (n :: (run k w').1, (run k w').2)

/-- The nodes that are left to visit. -/
def pending (w : Walk) : List Node := visit w.stack.reverse

/-- What a step can do. -/
theorem next?_cases (w : Walk) :
    (w.next? = none ∧ w.pending = []) ∨ ∃ n w', w.next? = some (n, w') ∧ w.pending = n :: w'.pending := by
  obtain ⟨stack⟩ := w
  rcases List.eq_nil_or_concat stack with rfl | ⟨below, n, rfl⟩
  · exact Or.inl ⟨rfl, by rw [pending, List.reverse_nil, visit]⟩
  · refine Or.inr ⟨n, ⟨below ++ n.children.reverse⟩, ?_, ?_⟩
    · simp [next?]
    · -- the reversed stack has the node first, and then what is below it
      simp only [pending, List.concat_eq_append, List.reverse_append, List.reverse_singleton, List.reverse_reverse,
        List.singleton_append]
      rw [visit]

/-- Any number of steps visits the first of the nodes that are left, and leaves the others. -/
theorem run_eq (k : Nat) (w : Walk) : (w.run k).1 = w.pending.take k ∧ (w.run k).2.pending = w.pending.drop k := by
  induction k generalizing w with
  | zero => exact ⟨rfl, rfl⟩
  | succ k ih =>
    rcases next?_cases w with ⟨ended, none⟩ | ⟨n, w', step, more⟩
    · simp [run, ended, none]
    · obtain ⟨visited, left⟩ := ih w'
      simp [run, step, more, visited, left]

theorem next?_eq_none_iff {w : Walk} : w.next? = none ↔ w.pending = [] := by
  rcases next?_cases w with ⟨ended, none⟩ | ⟨n, w', step, more⟩
  · simp [ended, none]
  · simp [step, more]

end Walk

/-- A walk visits as many nodes as the trees on its stack have. -/
theorem length_visit (stack : List Node) : (visit stack).length = sizeAll stack := by
  fun_induction visit stack with
  | case1 => rfl
  | case2 n stack ih =>
    rw [List.length_cons, ih, sizeAll_append, sizeAll, size_eq n]
    omega

theorem preorderAll_eq_flatMap (ns : List Node) : preorderAll ns = ns.flatMap preorder := by
  induction ns with
  | nil => rfl
  | cons n rest ih => rw [preorderAll, ih, List.flatMap_cons]

theorem descendants_eq (n : Node) : n.descendants = n :: n.children.flatMap descendants := by
  have same : descendants = preorder := funext descendants_eq_preorder
  rw [same, preorder_eq, preorderAll_eq_flatMap]

section Addresses

/-- The node at an address: the child to go to, step by step from the root. -/
def nodeAt? : Node → List Nat → Option Node
  | n, [] => some n
  | n, k :: rest =>
    match n.children[k]? with
    | none => none
    | some c => nodeAt? c rest

mutual

/-- The addresses of a tree, in the order of a walk. -/
def addresses : Node → List (List Nat)
  | leaf _ _ => [[]]
  | branch _ cs => [] :: addressesFrom 0 cs

/-- The addresses below a node, for its children from the `k`-th on. -/
def addressesFrom (k : Nat) : List Node → List (List Nat)
  | [] => []
  | n :: rest => n.addresses.map (k :: ·) ++ addressesFrom (k + 1) rest

end

theorem addresses_eq (n : Node) : n.addresses = [] :: addressesFrom 0 n.children := by
  cases n <;> rfl

theorem mem_addressesFrom {address : List Nat} {k : Nat} {ns : List Node} :
    address ∈ addressesFrom k ns ↔ ∃ j n rest, ns[j]? = some n ∧ rest ∈ n.addresses ∧ address = (k + j) :: rest := by
  induction ns generalizing k with
  | nil => simp [addressesFrom]
  | cons m ns ih =>
    rw [addressesFrom, List.mem_append, List.mem_map, ih]
    constructor
    · rintro (⟨rest, inside, rfl⟩ | ⟨j, n, rest, at_j, inside, rfl⟩)
      · exact ⟨0, m, rest, rfl, inside, rfl⟩
      · exact ⟨j + 1, n, rest, at_j, inside, by rw [Nat.add_right_comm, Nat.add_assoc]⟩
    · rintro ⟨j, n, rest, at_j, inside, rfl⟩
      cases j with
      | zero =>
        obtain rfl := Option.some.inj at_j
        exact Or.inl ⟨rest, inside, rfl⟩
      | succ j => exact Or.inr ⟨j, n, rest, at_j, inside, by rw [Nat.add_right_comm, Nat.add_assoc]⟩

/-- The addresses of a tree are those that lead to a node. -/
theorem mem_addresses_iff {n : Node} {address : List Nat} :
    address ∈ n.addresses ↔ (n.nodeAt? address).isSome = true := by
  induction address generalizing n with
  | nil => simp [addresses_eq, nodeAt?]
  | cons k rest ih =>
    have below : k :: rest ∈ n.addresses ↔ ∃ c, n.children[k]? = some c ∧ rest ∈ c.addresses := by
      rw [addresses_eq, List.mem_cons, mem_addressesFrom]
      constructor
      · rintro (none | ⟨j, c, rest, at_j, inside, same⟩)
        · cases none
        · obtain ⟨rfl, rfl⟩ := List.cons.inj same
          exact ⟨c, by rwa [Nat.zero_add], inside⟩
      · rintro ⟨c, at_k, inside⟩
        exact Or.inr ⟨k, c, rest, at_k, inside, by rw [Nat.zero_add]⟩
    rw [below, nodeAt?]
    cases n.children[k]? with
    | none => simp
    | some c => simp [ih]

mutual

/-- The node at each address is the one that the walk comes to. -/
theorem map_nodeAt?_addresses : (n : Node) → n.addresses.map n.nodeAt? = n.preorder.map some
  | leaf i t => rfl
  | branch i cs => by
    rw [addresses, preorder, List.map_cons, List.map_cons, map_nodeAt?_addressesFrom (branch i cs) 0 cs rfl]
    rfl

theorem map_nodeAt?_addressesFrom (parent : Node) (k : Nat) :
    (ns : List Node) → parent.children.drop k = ns → (addressesFrom k ns).map parent.nodeAt? = (preorderAll ns).map some
  | [], _ => rfl
  | n :: rest, left => by
    have here : parent.children[k]? = some n := by
      rw [← List.head?_drop, left]
      rfl
    have later : parent.children.drop (k + 1) = rest := by
      rw [← List.tail_drop, left]
      rfl
    have inside : parent.nodeAt? ∘ (k :: ·) = n.nodeAt? := by
      funext address
      simp only [Function.comp, nodeAt?, here]
    rw [addressesFrom, preorderAll, List.map_append, List.map_append, List.map_map, inside, map_nodeAt?_addresses n,
      map_nodeAt?_addressesFrom parent (k + 1) rest later]

end

mutual

/-- No address comes after one below it, and none comes twice. -/
theorem addresses_pairwise : (n : Node) → n.addresses.Pairwise fun a b => ¬ b <+: a
  | leaf i t => List.pairwise_singleton _ _
  | branch i cs => by
    rw [addresses, List.pairwise_cons]
    refine ⟨fun b mem above => ?_, addressesFrom_pairwise 0 cs⟩
    obtain ⟨j, n, rest, -, -, rfl⟩ := mem_addressesFrom.1 mem
    exact List.cons_ne_nil _ _ (List.prefix_nil.1 above)

theorem addressesFrom_pairwise (k : Nat) :
    (ns : List Node) → (addressesFrom k ns).Pairwise fun a b => ¬ b <+: a
  | [] => .nil
  | n :: rest => by
    rw [addressesFrom, List.pairwise_append, List.pairwise_map]
    refine ⟨(addresses_pairwise n).imp fun apart above => ?_, addressesFrom_pairwise (k + 1) rest, ?_⟩
    · exact apart ((List.prefix_cons_inj k).1 above)
    · -- addresses below different children part at their first step
      intro a mem b mem' above
      obtain ⟨x, -, rfl⟩ := List.mem_map.1 mem
      obtain ⟨j, m, y, -, -, rfl⟩ := mem_addressesFrom.1 mem'
      have same := (List.cons_prefix_cons.1 above).1
      omega

end

end Addresses

/-- **A walk with a stack is the recursive pre-order, and comes to each node once.** Driven for any number of steps, the
walk through a tree visits the first so many of `descendants`, and it is over after as many steps as the tree has nodes,
not before. These are the node itself and then, child by child, the descendants of its children. They are the nodes at
the addresses of the tree, taken one after the other: each address that leads to a node is taken once, and none after an
address below it. -/
theorem descendants_once_each_in_preorder (tree : Node) :
    (∀ k, ((Walk.start tree).run k).1 = tree.descendants.take k) ∧
    (∀ k, ((Walk.start tree).run k).2.next? = none ↔ tree.size ≤ k) ∧
    tree.descendants = tree :: tree.children.flatMap descendants ∧
    tree.descendants.length = tree.size ∧
    tree.descendants.map some = tree.addresses.map tree.nodeAt? ∧
    (∀ address, address ∈ tree.addresses ↔ (tree.nodeAt? address).isSome = true) ∧
    tree.addresses.Nodup ∧ tree.addresses.Pairwise (fun a b => ¬ b <+: a) := by
  have length : tree.descendants.length = tree.size := by
    rw [descendants, length_visit, sizeAll, sizeAll, Nat.add_zero]
  have places : tree.descendants.map some = tree.addresses.map tree.nodeAt? := by
    rw [map_nodeAt?_addresses, descendants_eq_preorder]
  have order := addresses_pairwise tree
  refine ⟨fun k => (Walk.run_eq k _).1, fun k => ?_, descendants_eq tree, length, places,
    fun _ => mem_addresses_iff, ?_, order⟩
  · rw [Walk.next?_eq_none_iff, (Walk.run_eq k _).2, List.drop_eq_nil_iff, ← length]
    rfl
  · refine List.Pairwise.imp ?_ order
    rintro a b apart rfl
    exact apart List.prefix_rfl

end SheetLint.Node
