import SheetLint.Node.Walk
import SheetLint.Rule
import SheetLint.Text.Number

/-!
# Units of zero values

A dimension whose number is zero needs no unit, so one that has a unit is an
offence. A dimension without a number is malformed.
-/

namespace SheetLint.Rule.ZeroUnit
set_option autoImplicit false

/-- The name of the rule. -/
def name : String := "zero-unit"

/-- The finding at a dimension. -/
def checkDimension (dimension : Node) : Option Finding :=
  match (dimension.first? "number").bind Node.text? with
  | none => some (.malformed dimension "dimension has no number")
  | some number =>
    match (dimension.first? "ident").bind Node.text? with
    | none => none
    | some unit =>
      if Text.isZero number.toList then
        some (.offence dimension s!"No unit allowed for values of 0, found `{number}{unit}`")
      else none

/-- The rule. -/
def rule : Rule where
  code := "SL004"
  name := name
  description := "Forbids units on zero values"
  findings _ tree := (tree.descendants.filter (·.isOf "dimension")).filterMap checkDimension

end SheetLint.Rule.ZeroUnit
