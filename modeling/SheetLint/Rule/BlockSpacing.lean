import SheetLint.Node.Walk
import SheetLint.Rule
import SheetLint.Text.Line

/-!
# Empty lines between blocks

A ruleset that starts on a new line after other content of its stylesheet or
block has an empty line before it, or, in the other mode, has none. The
whitespace right before the ruleset is where the line is looked for; a ruleset
with nothing but whitespace before it is the first item and is let be. A space
without a text is malformed.
-/

namespace SheetLint.Rule.BlockSpacing
set_option autoImplicit false

/-- The name of the rule. -/
def name : String := "empty-line-between-blocks"

/-- What is wrong with a ruleset in each mode. -/
def complaint : Bool → String
  | true => "Space between blocks should be included"
  | false => "Space between blocks should be omitted"

/-- The finding at a ruleset that follows `space`. -/
def checkSpace (wanted : Bool) (space ruleset : Node) : Option Finding :=
  match space.text? with
  | none => some (.malformed space "space has no text")
  | some white =>
    if Text.hasLineEnd white.toList && Text.hasBlankLine white.toList != wanted then
      some (.offence ruleset (complaint wanted))
    else none

/-- The finding at `node` after the child `previous`, where `opening` tells whether all children
before `previous` are spaces. -/
def checkChild (wanted opening : Bool) (previous : Option Node) (node : Node) : Option Finding :=
  match previous with
  | none => none
  | some space =>
    if node.isOf "ruleset" && space.isOf "space" && !opening then checkSpace wanted space node
    else none

/-- The findings in children that follow `previous`. -/
def checkFrom (wanted opening : Bool) (previous : Option Node) : List Node → List Finding
  | [] => []
  | node :: rest =>
    (checkChild wanted opening previous node).toList ++
      checkFrom wanted (opening && previous.all (·.isOf "space")) (some node) rest

/-- The findings in the children of one stylesheet or block. -/
def checkChildren (wanted : Bool) (parent : Node) : List Finding :=
  checkFrom wanted true none parent.children

/-- The rule that wants an empty line, or wants none. -/
def rule (wanted : Bool) : Rule where
  code := "SL005"
  name := name
  description := "Requires a blank line before rulesets that follow other content"
  findings _ tree :=
    (tree.descendants.filter fun n => n.isOf "stylesheet" || n.isOf "block").flatMap
      (checkChildren wanted)

end SheetLint.Rule.BlockSpacing
