/-!
# Lines

Line ends are `\n` and `\r\n`. A run of whitespace has an empty line in it when
the part from its first line end to its last is nothing but line ends.
-/

namespace SheetLint.Text
set_option autoImplicit false

/-- Whether the text goes on to another line. -/
def hasLineEnd (cs : List Char) : Bool :=
  cs.contains '\n'

/-- The text without its two-character line ends. -/
def dropCrlf : List Char → List Char
  | [] => []
  | '\r' :: '\n' :: rest => dropCrlf rest
  | c :: rest => c :: dropCrlf rest

/-- Whether the text is nothing but line ends. -/
def isEmptyLine (cs : List Char) : Bool :=
  ((dropCrlf cs).filter (· != '\n')).isEmpty

/-- The part of the text from its first `\n` to its last, both included. -/
def betweenLineEnds (cs : List Char) : List Char :=
  ((cs.dropWhile (· != '\n')).reverse.dropWhile (· != '\n')).reverse

/-- Whether there is an empty line between the first `\n` of the text and its last. -/
def hasBlankLine (cs : List Char) : Bool :=
  decide (1 < (betweenLineEnds cs).length) && isEmptyLine (betweenLineEnds cs)

end SheetLint.Text
