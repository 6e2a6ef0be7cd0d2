import SheetLint.Text.Ranges

/-!
# Blanks and trimming

Blanks are the characters with the Unicode property `White_Space`. Trimming
takes the blanks off both ends of a text and leaves those inside.
-/

namespace SheetLint.Text
set_option autoImplicit false

/-- The closed code point ranges of `White_Space`. -/
def blankRanges : List (Nat × Nat) :=
  [(0x09, 0x0D), (0x20, 0x20), (0x85, 0x85), (0xA0, 0xA0), (0x1680, 0x1680), (0x2000, 0x200A),
    (0x2028, 0x2029), (0x202F, 0x202F), (0x205F, 0x205F), (0x3000, 0x3000)]

/-- Whether `c` is a blank. -/
def isBlank (c : Char) : Bool :=
  inRangesB blankRanges c.toNat

/-- The text without the blanks it ends with. -/
def trimRight (cs : List Char) : List Char :=
  (cs.reverse.dropWhile isBlank).reverse

/-- The text without the blanks it starts or ends with. -/
def trim (cs : List Char) : List Char :=
  trimRight (cs.dropWhile isBlank)

theorem isBlank_of_isWhitespace {c : Char} (white : c.isWhitespace = true) : isBlank c = true := by
  simp only [Char.isWhitespace, Bool.or_eq_true, decide_eq_true_eq, or_assoc] at white
  rcases white with rfl | rfl | rfl | rfl <;> decide

end SheetLint.Text
