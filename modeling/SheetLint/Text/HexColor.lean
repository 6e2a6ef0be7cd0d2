/-!
# Hexadecimal colors

A hexadecimal color is three or six ASCII hexadecimal digits, written after a
`#` that is not part of the text.
-/

namespace SheetLint.Text
set_option autoImplicit false

/-- Whether `c` is an ASCII hexadecimal digit of either case. -/
def isHexDigit (c : Char) : Bool :=
  c.isDigit || ('a' ≤ c && c ≤ 'f') || ('A' ≤ c && c ≤ 'F')

/-- Whether the text is a hexadecimal color. -/
def isHexColor (cs : List Char) : Bool :=
  (cs.length == 3 || cs.length == 6) && cs.all isHexDigit

end SheetLint.Text
