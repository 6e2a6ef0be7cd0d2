import SheetLint.Proofs.Sites

/-!
# Trees whose nodes carry other data

`relabel` changes what the nodes of a tree carry and leaves the tree, its texts and
the kinds as they are. A built-in rule goes to the same sites of the changed tree, in
the same order, and finds the same there (`findings_relabel`): no check reads anything
of a node but its kind, its text and its children. What a report takes from a node
beside these are its lines and its first column, so relabellings are told apart by how
many lines they move a node down.
-/

namespace SheetLint
set_option autoImplicit false

/-- The position `k` lines further down. -/
def Position.down (k : Nat) (p : Position) : Position := ⟨p.line + k, p.column⟩

/-- The shape of what stands `k` lines further down. -/
def Shape.down (k : Nat) (s : Shape) : Shape := ⟨s.kind, s.startLine + k, s.stopLine + k, s.contentLength⟩

/-- The detection `k` lines further down. -/
def Detection.down (k : Nat) (d : Detection) : Detection :=
  { d with position := d.position.down k, shape := d.shape.down k }

/-- Nodes keep their kind and the column they start at, and move down by `k` lines. Nothing is said of
their dialect, their indexes and the column they stop at. -/
structure NodeInfo.Moves (k : Nat) (f : NodeInfo → NodeInfo) : Prop where
  kind : ∀ i, (f i).kind = i.kind
  start : ∀ i, (f i).start = i.start.down k
  stopLine : ∀ i, (f i).stop.line = i.stop.line + k

namespace Node

mutual

/-- The tree with other data at its nodes. -/
def relabel (f : NodeInfo → NodeInfo) : Node → Node
  | leaf i t => leaf (f i) t
  | branch i cs => branch (f i) (relabelAll f cs)

/-- The trees with other data at their nodes. -/
def relabelAll (f : NodeInfo → NodeInfo) : List Node → List Node
  | [] => []
  | n :: rest => relabel f n :: relabelAll f rest

end

section Relabel

variable (f : NodeInfo → NodeInfo) (n : Node)

theorem relabelAll_eq_map (ns : List Node) : relabelAll f ns = ns.map (relabel f) := by
  induction ns with
  | nil => rfl
  | cons n rest ih => rw [relabelAll, ih, List.map_cons]

@[simp] theorem info_relabel : (n.relabel f).info = f n.info := by
  cases n <;> rfl

@[simp] theorem text?_relabel : (n.relabel f).text? = n.text? := by
  cases n <;> rfl

@[simp] theorem children_relabel : (n.relabel f).children = n.children.map (relabel f) := by
  cases n with
  | leaf i t => rfl
  | branch i cs => exact relabelAll_eq_map f cs

@[simp] theorem contentLength_relabel : (n.relabel f).contentLength = n.contentLength := by
  cases n with
  | leaf i t => rfl
  | branch i cs => rw [relabel, contentLength, relabelAll_eq_map, List.length_map, contentLength]

mutual

theorem preorder_relabel : (n : Node) → (n.relabel f).preorder = n.preorder.map (relabel f)
  | leaf i t => rfl
  | branch i cs => by
    rw [relabel, preorder, preorderAll_relabel cs, preorder, List.map_cons, relabel]

theorem preorderAll_relabel : (ns : List Node) → preorderAll (relabelAll f ns) = (preorderAll ns).map (relabel f)
  | [] => rfl
  | n :: rest => by
    rw [relabelAll, preorderAll, preorder_relabel n, preorderAll_relabel rest, preorderAll, List.map_append]

end
end Relabel

section Moves

variable {k : Nat} {f : NodeInfo → NodeInfo} (moves : NodeInfo.Moves k f)
include moves

theorem kind_relabel (n : Node) : (n.relabel f).kind = n.kind := by
  rw [kind, info_relabel, moves.kind, kind]

theorem isOf_relabel (n : Node) (kind : String) : (n.relabel f).isOf kind = n.isOf kind := by
  rw [isOf, kind_relabel moves, isOf]

theorem isOf_comp_relabel (kind : String) : (fun n : Node => n.isOf kind) ∘ relabel f = fun n => n.isOf kind :=
  funext fun n => isOf_relabel moves n kind

theorem start_relabel (n : Node) : (n.relabel f).start = n.start.down k := by
  rw [start, info_relabel, moves.start, start]

theorem shape_relabel (n : Node) : shape (n.relabel f) = (shape n).down k := by
  have stopLine : (n.relabel f).stop.line = n.stop.line + k := by
    rw [stop, info_relabel, moves.stopLine, stop]
  show (⟨_, _, _, _⟩ : Shape) = ⟨_, _, _, _⟩
  rw [kind_relabel moves, start_relabel moves, stopLine, contentLength_relabel]
  rfl

theorem first?_relabel (n : Node) (kind : String) : (n.relabel f).first? kind = (n.first? kind).map (relabel f) := by
  rw [first?, children_relabel, List.find?_map, isOf_comp_relabel moves, first?]

/-- The text of the first child of a kind is the same. -/
theorem first?_text?_relabel (n : Node) (kind : String) :
    ((n.relabel f).first? kind).bind text? = (n.first? kind).bind text? := by
  rw [first?_relabel moves, Option.bind_map]
  congr 1
  funext m
  exact text?_relabel f m

end Moves
end Node

namespace Site

/-- The site in the tree with other data at its nodes. -/
def relabel (f : NodeInfo → NodeInfo) (s : Site) : Site := ⟨s.before.map (Node.relabel f), s.node.relabel f⟩

variable (f : NodeInfo → NodeInfo)

theorem following_map (before nodes : List Node) :
    following (before.map (Node.relabel f)) (nodes.map (Node.relabel f)) = (following before nodes).map (relabel f) := by
  induction nodes generalizing before with
  | nil => rfl
  | cons n rest ih =>
    have next := ih (before ++ [n])
    rw [List.map_append, List.map_singleton] at next
    rw [List.map_cons, following, next, following, List.map_cons]
    rfl

theorem below_relabel (parent : Node) : below (parent.relabel f) = (below parent).map (relabel f) := by
  rw [below, Node.children_relabel]
  exact following_map f [] parent.children

end Site

namespace Finding

/-- The finding in the tree with other data at its nodes, which move down by `k` lines. -/
def relabel (k : Nat) (f : NodeInfo → NodeInfo) : Finding → Finding
  | offence node message => offence (node.relabel f) message
  | reported detection => reported (detection.down k)
  | malformed node problem => malformed (node.relabel f) problem

end Finding

namespace Rule

section Texts

variable (k : Nat) (f : NodeInfo → NodeInfo)

theorem HexDigits.checkColor_relabel (n : Node) :
    checkColor (n.relabel f) = (checkColor n).map (Finding.relabel k f) := by
  simp only [checkColor, Node.text?_relabel]
  split
  · rfl
  · split <;> rfl

theorem HexCase.checkColor_relabel (style : Style) (n : Node) :
    checkColor style (n.relabel f) = (checkColor style n).map (Finding.relabel k f) := by
  simp only [checkColor, Node.text?_relabel]
  split
  · rfl
  · split <;> rfl

theorem BlockSpacing.checkSpace_relabel (wanted : Bool) (space ruleset : Node) :
    checkSpace wanted (space.relabel f) (ruleset.relabel f) =
      (checkSpace wanted space ruleset).map (Finding.relabel k f) := by
  simp only [checkSpace, Node.text?_relabel]
  split
  · rfl
  · split <;> rfl

end Texts

section Checks

variable {k : Nat} {f : NodeInfo → NodeInfo} (moves : NodeInfo.Moves k f)
include moves

namespace DeclarationOrder

theorem property?_relabel (n : Node) : property? (n.relabel f) = property? n := by
  unfold property?
  rw [Node.first?_relabel moves, Option.bind_map, Option.bind_assoc, Option.bind_assoc]
  congr 1
  funext m
  exact Node.first?_text?_relabel moves m "ident"

theorem ranked?_relabel (policy : Order.Policy) (n : Node) : ranked? policy (n.relabel f) = ranked? policy n := by
  rw [ranked?, Node.isOf_relabel moves, property?_relabel moves, ranked?]

theorem highest_relabel (policy : Order.Policy) (before : List Node) :
    highest policy (before.map (Node.relabel f)) = highest policy before := by
  have step : (fun top n => raise policy top (Node.relabel f n)) = raise policy := by
    funext top n
    unfold raise
    rw [ranked?_relabel moves]
  rw [highest, List.foldl_map, step, highest]

theorem findingAt_relabel (policy : Order.Policy) (s : Site) :
    findingAt policy (s.relabel f) = (findingAt policy s).map (Finding.relabel k f) := by
  simp only [findingAt, Site.relabel, ranked?_relabel moves, highest_relabel moves]
  split
  · split <;> rfl
  · rfl

end DeclarationOrder

theorem ZeroUnit.checkDimension_relabel (n : Node) :
    checkDimension (n.relabel f) = (checkDimension n).map (Finding.relabel k f) := by
  simp only [checkDimension, Node.first?_text?_relabel moves]
  split
  · rfl
  · split
    · rfl
    · split <;> rfl

namespace BlockSpacing

theorem findingAt_relabel (wanted : Bool) (s : Site) :
    findingAt wanted (s.relabel f) = (findingAt wanted s).map (Finding.relabel k f) := by
  have opening : (s.relabel f).before.dropLast.all (·.isOf "space") = s.before.dropLast.all (·.isOf "space") := by
    show (s.before.map (Node.relabel f)).dropLast.all _ = _
    rw [← List.map_dropLast, List.all_map, Node.isOf_comp_relabel moves]
  have last : (s.relabel f).before.getLast? = s.before.getLast?.map (Node.relabel f) := List.getLast?_map
  rw [findingAt, opening, last, findingAt]
  cases s.before.getLast? with
  | none => rfl
  | some space =>
    simp only [checkChild, Site.relabel, Option.map_some, Node.isOf_relabel moves]
    split
    · exact checkSpace_relabel k f wanted space s.node
    · rfl

end BlockSpacing

namespace Check

/-- A check finds at a site of the relabelled tree what it finds at that of the tree. -/
theorem findingAt_relabel (c : Check) (s : Site) :
    c.findingAt (s.relabel f) = (c.findingAt s).map (Finding.relabel k f) := by
  cases c with
  | declarationOrder policy => exact DeclarationOrder.findingAt_relabel moves policy s
  | hexDigits => exact HexDigits.checkColor_relabel k f s.node
  | hexCase style => exact HexCase.checkColor_relabel k f style s.node
  | zeroUnit => exact ZeroUnit.checkDimension_relabel moves s.node
  | blockSpacing wanted => exact BlockSpacing.findingAt_relabel moves wanted s

/-- A check goes to the same sites in the same order. -/
theorem visits_relabel (c : Check) (tree : Node) : c.visits (tree.relabel f) = (c.visits tree).map (Site.relabel f) := by
  have alone (kind : String) : (((tree.relabel f).preorder.filter (·.isOf kind)).map Site.alone) =
      ((tree.preorder.filter (·.isOf kind)).map Site.alone).map (Site.relabel f) := by
    rw [Node.preorder_relabel, List.filter_map, Node.isOf_comp_relabel moves, List.map_map, List.map_map]
    rfl
  have below (kinds : Node → Bool) (same : kinds ∘ Node.relabel f = kinds) :
      ((tree.relabel f).preorder.filter kinds).flatMap Site.below =
        ((tree.preorder.filter kinds).flatMap Site.below).map (Site.relabel f) := by
    rw [Node.preorder_relabel, List.filter_map, same, List.flatMap_map, List.map_flatMap]
    congr 1
    funext parent
    exact Site.below_relabel f parent
  have sheets : (fun n : Node => n.isOf "stylesheet" || n.isOf "block") ∘ Node.relabel f =
      fun n => n.isOf "stylesheet" || n.isOf "block" := by
    funext n
    show ((n.relabel f).isOf "stylesheet" || (n.relabel f).isOf "block") = _
    rw [Node.isOf_relabel moves, Node.isOf_relabel moves]
  cases c with
  | declarationOrder policy => exact below _ (Node.isOf_comp_relabel moves "block")
  | hexDigits => exact alone "color"
  | hexCase style => exact alone "color"
  | zeroUnit => exact alone "dimension"
  | blockSpacing wanted => exact below _ sheets

/-- **What a check finds in a relabelled tree** is what it finds in the tree, at the relabelled nodes. -/
theorem findings_relabel (c : Check) (tree : Node) :
    (c.visits (tree.relabel f)).filterMap c.findingAt =
      ((c.visits tree).filterMap c.findingAt).map (Finding.relabel k f) := by
  have each : c.findingAt ∘ Site.relabel f = fun s => (c.findingAt s).map (Finding.relabel k f) :=
    funext (findingAt_relabel moves c)
  rw [visits_relabel moves, List.filterMap_map, each, List.map_filterMap]

end Check
end Checks
end Rule
end SheetLint
