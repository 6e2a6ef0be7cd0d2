import SheetLint.Node.Walk
import SheetLint.Rule
import SheetLint.Text.Letter
import SheetLint.Text.Case

/-!
# Letter case of hexadecimal colors

A color that has letters and is not in the chosen letter case is an offence. A
color without a text is malformed.
-/

namespace SheetLint.Rule.HexCase
set_option autoImplicit false

/-- The name of the rule. -/
def name : String := "hex-notation"

/-- The letter case that colors are to be in. -/
inductive Style where
  | lowercase
  | uppercase
deriving DecidableEq, Repr, Inhabited

namespace Style

/-- The name of a style. -/
def name : Style → String
  | lowercase => "lowercase"
  | uppercase => "uppercase"

/-- Whether a text is in the style. -/
def acceptsB : Style → List Char → Bool
  | lowercase => Text.isLowerCase
  | uppercase => Text.isUpperCase

end Style

/-- Whether a text is clean: without letters, or in the style. -/
def cleanB (style : Style) (hex : List Char) : Bool :=
  !hex.any Text.isLetter || style.acceptsB hex

/-- The finding at a color. -/
def checkColor (style : Style) (color : Node) : Option Finding :=
  match color.text? with
  | none => some (.malformed color "color has no text")
  | some hex =>
    if cleanB style hex.toList then none
    else some (.offence color s!"Color `#{hex}` should be written in {style.name}")

/-- The rule for a style. -/
def rule (style : Style) : Rule where
  code := "SL003"
  name := name
  description := "Requires hexadecimal colors to use a consistent letter case"
  findings _ tree := (tree.descendants.filter (·.isOf "color")).filterMap (checkColor style)

end SheetLint.Rule.HexCase
