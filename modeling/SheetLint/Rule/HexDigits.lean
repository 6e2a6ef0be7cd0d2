import SheetLint.Node.Walk
import SheetLint.Rule
import SheetLint.Text.HexColor

/-!
# Digits of hexadecimal colors

A color that is not three or six hexadecimal digits is an offence. A color
without a text is malformed.
-/

namespace SheetLint.Rule.HexDigits
set_option autoImplicit false

/-- The name of the rule. -/
def name : String := "no-invalid-hex"

/-- The finding at a color. -/
def checkColor (color : Node) : Option Finding :=
  match color.text? with
  | none => some (.malformed color "color has no text")
  | some hex =>
    if Text.isHexColor hex.toList then none
    else some (.offence color s!"Hexadecimal color `#{hex}` must be 3 or 6 hex digits")

/-- The rule. -/
def rule : Rule where
  code := "SL002"
  name := name
  description := "Forbids hexadecimal colors that are not 3 or 6 hex digits"
  severity := .error
  findings _ tree := (tree.descendants.filter (·.isOf "color")).filterMap checkColor

end SheetLint.Rule.HexDigits
