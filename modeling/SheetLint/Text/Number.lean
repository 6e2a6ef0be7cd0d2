import SheetLint.Decimal
import SheetLint.Text.Blank

/-!
# Numbers in texts

A text counts as a number when it is, blanks around it apart, a decimal literal
within the range of double precision. It counts as zero when it rounds to zero
there.
-/

namespace SheetLint.Text
set_option autoImplicit false

/-- Whether the text is a number in range. -/
def isNumber (cs : List Char) : Bool :=
  (Decimal.read? (trim cs)).any Decimal.finiteB

/-- Whether the text is a number in range that rounds to zero. -/
def isZero (cs : List Char) : Bool :=
  isNumber cs && (Decimal.read? (trim cs)).any Decimal.zeroB

end SheetLint.Text
