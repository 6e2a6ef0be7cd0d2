import SheetLint.Node.Walk
import SheetLint.Order
import SheetLint.Rule

/-!
# Order of declarations

Within a block, a declaration whose property ranks before that of an earlier
declaration is an offence. The message names the highest-ranked property so
far, in its latest spelling.
-/

namespace SheetLint.Rule.DeclarationOrder
set_option autoImplicit false

/-- The name of the rule. -/
def name : String := "property-sort-order"

/-- The property that a declaration sets, as written. -/
def property? (declaration : Node) : Option String :=
  ((declaration.first? "property").bind (·.first? "ident")).bind Node.text?

/-- The declarations that stand directly in a block, with their properties. -/
def declarations (block : Node) : List (Node × String) :=
  (block.childrenOf "declaration").filterMap fun d => (property? d).map (d, ·)

/-- The findings in the declarations of a block after those whose highest rank is `highest`. -/
def check (policy : Order.Policy) (highest : Option (Order.Rank × String)) :
    List (Node × String) → List Finding
  | [] => []
  | (declaration, property) :: rest =>
    match policy.rank? property, highest with
    | none, _ => check policy highest rest
    | some rank, none => check policy (some (rank, property)) rest
    | some rank, some (top, before) =>
      if rank.ltB top then
        .offence declaration s!"Expected `{property}` to come before `{before}`" ::
          check policy highest rest
      else check policy (some (rank, property)) rest

/-- The findings in one block. -/
def checkBlock (policy : Order.Policy) (block : Node) : List Finding :=
  check policy none (declarations block)

/-- The rule for a policy. -/
def rule (policy : Order.Policy) : Rule where
  code := "SL001"
  name := name
  description := "Enforces the order of declarations within a block"
  findings _ tree := (tree.descendants.filter (·.isOf "block")).flatMap (checkBlock policy)

end SheetLint.Rule.DeclarationOrder
