import SheetLint.Proofs.Preorder
import SheetLint.Rule.Catalog

/-!
# Built-in rules site by site

A built-in rule goes from site to site and decides at each what it finds there.
A site is a node with the siblings before it: three of the rules look at nodes
of one kind, wherever they stand, and the other two at the children of a node,
parent by parent, where what comes before a child matters. `findings_eq` says
that this is all a rule does, which replaces the loops with a running state by a
function of the site.
-/

namespace SheetLint
set_option autoImplicit false

/-- A node as a rule comes to it, with the children of the same parent that stand before it. -/
structure Site where
  before : List Node
  node : Node

namespace Site

/-- The sites of `nodes`, which follow the siblings `before`. -/
def following (before : List Node) : List Node → List Site
  | [] => []
  | n :: rest => ⟨before, n⟩ :: following (before ++ [n]) rest

/-- The sites of the children of a node. -/
def below (parent : Node) : List Site := following [] parent.children

/-- The site of a node whose siblings do not matter. -/
def alone (n : Node) : Site := ⟨[], n⟩

theorem mem_following {s : Site} {before nodes : List Node} :
    s ∈ following before nodes ↔
      ∃ earlier after, s.before = before ++ earlier ∧ nodes = earlier ++ s.node :: after := by
  induction nodes generalizing before with
  | nil => simp [following]
  | cons n rest ih =>
    rw [following, List.mem_cons, ih]
    constructor
    · rintro (rfl | ⟨earlier, after, e, rfl⟩)
      · exact ⟨[], rest, (List.append_nil _).symm, rfl⟩
      · exact ⟨n :: earlier, after, by simpa using e, rfl⟩
    · rintro ⟨earlier, after, e, split⟩
      cases earlier with
      | nil =>
        obtain ⟨rfl, -⟩ := List.cons.inj split
        refine Or.inl ?_
        obtain ⟨b, m⟩ := s
        simpa using e
      | cons m earlier =>
        obtain ⟨rfl, tail⟩ := List.cons.inj split
        exact Or.inr ⟨earlier, after, by simpa using e, tail⟩

theorem mem_below {s : Site} {parent : Node} :
    s ∈ below parent ↔ ∃ after, parent.children = s.before ++ s.node :: after := by
  simp [below, mem_following]

theorem following_append (before xs ys : List Node) :
    following before (xs ++ ys) = following before xs ++ following (before ++ xs) ys := by
  induction xs generalizing before with
  | nil => simp [following]
  | cons x xs ih => simp [following, ih]

end Site

namespace Rule

/-- What a built-in rule checks, with its options. -/
inductive Check where
  | declarationOrder (policy : Order.Policy)
  | hexDigits
  | hexCase (style : HexCase.Style)
  | zeroUnit
  | blockSpacing (wanted : Bool)

/-- A built-in rule: a check, and how much its offences matter. -/
structure Builtin where
  check : Check
  severity : Severity

namespace Check

/-- The rule for a check, with the severity that it has by itself. -/
def rule : Check → Rule
  | declarationOrder policy => DeclarationOrder.rule policy
  | hexDigits => HexDigits.rule
  | hexCase style => HexCase.rule style
  | zeroUnit => ZeroUnit.rule
  | blockSpacing wanted => BlockSpacing.rule wanted

/-- The sites that a check looks at, in the order it does. -/
def visits : Check → Node → List Site
  | declarationOrder _, tree => (tree.preorder.filter (·.isOf "block")).flatMap Site.below
  | hexDigits, tree => (tree.preorder.filter (·.isOf "color")).map Site.alone
  | hexCase _, tree => (tree.preorder.filter (·.isOf "color")).map Site.alone
  | zeroUnit, tree => (tree.preorder.filter (·.isOf "dimension")).map Site.alone
  | blockSpacing _, tree =>
    (tree.preorder.filter fun n => n.isOf "stylesheet" || n.isOf "block").flatMap Site.below

end Check

namespace Builtin

/-- The rule as the linter takes it. -/
def rule (b : Builtin) : Rule := b.check.rule.withSeverity b.severity

/-- The name of the rule. -/
def name (b : Builtin) : String := b.rule.name

end Builtin

namespace DeclarationOrder

/-- The node is a declaration of `property`, which the policy ranks. -/
structure Ranks (policy : Order.Policy) (n : Node) (rank : Order.Rank) (property : String) : Prop where
  declaration : n.kind = "declaration"
  named : property? n = some property
  ranks : policy.rank? property = some rank

/-- The rank of a node that is a declaration with a ranked property, and the property. -/
def ranked? (policy : Order.Policy) (n : Node) : Option (Order.Rank × String) :=
  if n.isOf "declaration" then (property? n).bind fun p => (policy.rank? p).map (·, p) else none

/-- The highest rank so far after one more child, with the property that has it; of equal ranks the
later counts. -/
def raise (policy : Order.Policy) (highest : Option (Order.Rank × String)) (n : Node) :
    Option (Order.Rank × String) :=
  match ranked? policy n, highest with
  | none, _ => highest
  | some r, none => some r
  | some r, some top => if r.1.ltB top.1 then some top else some r

/-- The highest rank among children, with the property that has it. -/
def highest (policy : Order.Policy) (before : List Node) : Option (Order.Rank × String) :=
  before.foldl (raise policy) none

/-- The finding at a child of a block. -/
def findingAt (policy : Order.Policy) (s : Site) : Option Finding :=
  match ranked? policy s.node, highest policy s.before with
  | some r, some top =>
    if r.1.ltB top.1 then some (.offence s.node s!"Expected `{r.2}` to come before `{top.2}`") else none
  | _, _ => none

section Raise

variable {policy : Order.Policy} {n : Node} {r top : Order.Rank × String}

theorem raise_unranked (none : ranked? policy n = none) (highest : Option (Order.Rank × String)) :
    raise policy highest n = highest := by
  simp [raise, none]

theorem raise_first (ranks : ranked? policy n = some r) : raise policy none n = some r := by
  simp [raise, ranks]

theorem raise_lower (ranks : ranked? policy n = some r) (low : r.1.ltB top.1 = true) :
    raise policy (some top) n = some top := by
  simp [raise, ranks, low]

theorem raise_higher (ranks : ranked? policy n = some r) (high : ¬ r.1.ltB top.1 = true) :
    raise policy (some top) n = some r := by
  simp [raise, ranks, high]

end Raise

theorem highest_snoc (policy : Order.Policy) (before : List Node) (n : Node) :
    highest policy (before ++ [n]) = raise policy (highest policy before) n := by
  simp [highest, List.foldl_append]

/-- The declarations among children that follow others. -/
def declarationsOf (nodes : List Node) : List (Node × String) :=
  (nodes.filter (·.isOf "declaration")).filterMap fun d => (property? d).map (d, ·)

theorem ranked?_eq_some_iff {policy : Order.Policy} {n : Node} {rank : Order.Rank} {property : String} :
    ranked? policy n = some (rank, property) ↔ Ranks policy n rank property := by
  simp only [ranked?, Option.ite_none_right_eq_some, Option.bind_eq_some_iff, Option.map_eq_some_iff,
    Prod.mk.injEq]
  constructor
  · rintro ⟨decl, p, named, q, ranks, rfl, rfl⟩
    exact ⟨eq_of_beq decl, named, ranks⟩
  · rintro ⟨decl, named, ranks⟩
    exact ⟨beq_iff_eq.2 decl, property, named, rank, ranks, rfl, rfl⟩

theorem ranked?_eq_none_iff {policy : Order.Policy} {n : Node} :
    ranked? policy n = none ↔ ∀ rank property, ¬ Ranks policy n rank property := by
  rw [Option.eq_none_iff_forall_ne_some]
  constructor
  · intro none rank property ranks
    exact none (rank, property) (ranked?_eq_some_iff.2 ranks)
  · intro none r some
    exact none r.1 r.2 (ranked?_eq_some_iff.1 some)

/-- The scan passes over a child without a rank. -/
theorem check_unranked {policy : Order.Policy} {n : Node} (unranked : ranked? policy n = none)
    (top : Option (Order.Rank × String)) (rest : List Node) :
    check policy top (declarationsOf (n :: rest)) = check policy top (declarationsOf rest) := by
  by_cases decl : n.isOf "declaration" = true
  · cases named : property? n with
    | none => simp [declarationsOf, decl, named]
    | some p =>
      have none : policy.rank? p = none := by simpa [ranked?, decl, named] using unranked
      simp [declarationsOf, decl, named, check, none]
  · simp [declarationsOf, decl]

/-- The scan with a running maximum, child by child. -/
theorem check_eq (policy : Order.Policy) (before nodes : List Node) :
    check policy (highest policy before) (declarationsOf nodes) =
      (Site.following before nodes).filterMap (findingAt policy) := by
  induction nodes generalizing before with
  | nil => rfl
  | cons n rest ih =>
    rw [Site.following, List.filterMap_cons, ← ih, highest_snoc]
    cases rank : ranked? policy n with
    | none => simp [check_unranked rank, findingAt, raise_unranked rank, rank]
    | some r =>
      obtain ⟨decl, named, ranks⟩ := ranked?_eq_some_iff.1 rank
      have here : declarationsOf (n :: rest) = (n, r.2) :: declarationsOf rest := by
        simp [declarationsOf, Node.isOf, decl, named]
      rw [here]
      cases top : highest policy before with
      | none => simp [check, ranks, findingAt, raise_first rank, rank, top]
      | some t =>
        by_cases low : r.1.ltB t.1 = true
        · simp [check, ranks, findingAt, raise_lower rank low, rank, top, low]
        · simp [check, ranks, findingAt, raise_higher rank low, rank, top, low]

theorem checkBlock_eq (policy : Order.Policy) (block : Node) :
    checkBlock policy block = (Site.below block).filterMap (findingAt policy) :=
  check_eq policy [] block.children

end DeclarationOrder

namespace BlockSpacing

/-- The finding at a child of a stylesheet or block. -/
def findingAt (wanted : Bool) (s : Site) : Option Finding :=
  checkChild wanted (s.before.dropLast.all (·.isOf "space")) s.before.getLast? s.node

/-- All but the last child are spaces and so is the last, if there is one: all of them are. -/
theorem all_dropLast_and_getLast? (p : Node → Bool) (ns : List Node) :
    (ns.dropLast.all p && ns.getLast?.all p) = ns.all p := by
  rcases List.eq_nil_or_concat ns with rfl | ⟨init, last, rfl⟩
  · rfl
  · simp

theorem checkFrom_eq (wanted : Bool) (before nodes : List Node) :
    checkFrom wanted (before.dropLast.all (·.isOf "space")) before.getLast? nodes =
      (Site.following before nodes).filterMap (findingAt wanted) := by
  induction nodes generalizing before with
  | nil => rfl
  | cons n rest ih =>
    have next := ih (before ++ [n])
    rw [List.dropLast_concat, List.getLast?_concat] at next
    rw [checkFrom, all_dropLast_and_getLast?, next, Site.following, List.filterMap_cons, findingAt]
    cases checkChild wanted (before.dropLast.all (·.isOf "space")) before.getLast? n <;> rfl

theorem checkChildren_eq (wanted : Bool) (parent : Node) :
    checkChildren wanted parent = (Site.below parent).filterMap (findingAt wanted) :=
  checkFrom_eq wanted [] parent.children

end BlockSpacing

namespace Check

/-- The finding of a check at a site. -/
def findingAt : Check → Site → Option Finding
  | declarationOrder policy, s => DeclarationOrder.findingAt policy s
  | hexDigits, s => HexDigits.checkColor s.node
  | hexCase style, s => HexCase.checkColor style s.node
  | zeroUnit, s => ZeroUnit.checkDimension s.node
  | blockSpacing wanted, s => BlockSpacing.findingAt wanted s

/-- **A built-in rule is a function of the site**, applied at one site after the other. -/
theorem findings_eq (c : Check) (context : FileContext) (tree : Node) :
    c.rule.findings context tree = (c.visits tree).filterMap c.findingAt := by
  have alone (kind : String) (check : Node → Option Finding) :
      (tree.descendants.filter (·.isOf kind)).filterMap check =
        ((tree.preorder.filter (·.isOf kind)).map Site.alone).filterMap fun s => check s.node := by
    rw [Node.descendants_eq_preorder, List.filterMap_map]
    rfl
  have children (kinds : Node → Bool) {scan : Node → List Finding} {check : Site → Option Finding}
      (scan_eq : ∀ parent, scan parent = (Site.below parent).filterMap check) :
      (tree.descendants.filter kinds).flatMap scan =
        ((tree.preorder.filter kinds).flatMap Site.below).filterMap check := by
    rw [Node.descendants_eq_preorder, List.filterMap_flatMap, funext scan_eq]
  cases c with
  | declarationOrder policy => exact children _ (DeclarationOrder.checkBlock_eq policy)
  | hexDigits => exact alone "color" HexDigits.checkColor
  | hexCase style => exact alone "color" (HexCase.checkColor style)
  | zeroUnit => exact alone "dimension" ZeroUnit.checkDimension
  | blockSpacing wanted => exact children _ (BlockSpacing.checkChildren_eq wanted)

/-- A check looks at nodes of the tree. -/
theorem mem_preorder_of_visits {c : Check} {tree : Node} {s : Site} (visited : s ∈ c.visits tree) :
    s.node ∈ tree.preorder := by
  have among {kinds : Node → Bool} (mem : s ∈ (tree.preorder.filter kinds).map Site.alone) :
      s.node ∈ tree.preorder := by
    obtain ⟨n, kept, rfl⟩ := List.mem_map.1 mem
    exact (List.mem_filter.1 kept).1
  have child {kinds : Node → Bool} (mem : s ∈ (tree.preorder.filter kinds).flatMap Site.below) :
      s.node ∈ tree.preorder := by
    obtain ⟨parent, kept, below⟩ := List.mem_flatMap.1 mem
    obtain ⟨after, split⟩ := Site.mem_below.1 below
    have inside : s.node ∈ parent.children := by simp [split]
    exact Node.mem_preorder_of_child inside tree (List.mem_filter.1 kept).1
  cases c with
  | declarationOrder policy => exact child visited
  | hexDigits => exact among visited
  | hexCase style => exact among visited
  | zeroUnit => exact among visited
  | blockSpacing wanted => exact child visited

end Check
end Rule
end SheetLint
