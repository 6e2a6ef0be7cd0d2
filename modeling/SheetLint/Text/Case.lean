import SheetLint.Text.Case.Table

/-!
# Letter case

Full case conversion of a text: one character may become several, and a
capital sigma at the end of a word is lowered to its final form. A text counts
as upper (lower) case when conversion to that case leaves it alone and
conversion to the other case does not, so a text without letters is neither.
-/

namespace SheetLint.Text
set_option autoImplicit false

namespace Case

/-- The mapping of one code point above ASCII, by the special cases first. -/
def mapped (specials : List (Nat × List Nat)) (runs : List Run) (n : Nat) : List Char :=
  match specials.lookup n with
  | some ns => ns.map Char.ofNat
  | none => [Char.ofNat ((Run.lookup? runs n).getD n)]

/-- The uppercase form of one character. -/
def upperChar (c : Char) : List Char :=
  if c.toNat < 128 then [c.toUpper] else mapped upperSpecials upperRuns c.toNat

/-- The lowercase form of one character, wherever it stands. -/
def lowerChar (c : Char) : List Char :=
  if c.toNat < 128 then [c.toLower] else mapped lowerSpecials lowerRuns c.toNat

/-- Whether `c` has a case. -/
def isCased (c : Char) : Bool :=
  if c.toNat < 128 then c.isAlpha else inRangesB casedRanges c.toNat

/-- Whether `c` is passed over when looking for the letter next to a sigma. -/
def isIgnorable (c : Char) : Bool :=
  if c.toNat < 128 then "'.:^`".toList.contains c else inRangesB ignorableRanges c.toNat

/-- Whether the nearest character that counts has a case. -/
def meetsCased (cs : List Char) : Bool :=
  (cs.dropWhile isIgnorable).head?.any isCased

/-- The lowercase form of `c` between the characters `before` it (nearest first) and `after` it:
a capital sigma that ends a word becomes the final sigma. -/
def lowerBetween (before : List Char) (c : Char) (after : List Char) : List Char :=
  if c = 'Σ' then [if meetsCased before && !meetsCased after then 'ς' else 'σ']
  else lowerChar c

/-- The lowercase form of a text that follows `before` (nearest first). -/
def lowerAfter (before : List Char) : List Char → List Char
  | [] => []
  | c :: rest => lowerBetween before c rest ++ lowerAfter (c :: before) rest

end Case

/-- The text in uppercase. -/
def upper (cs : List Char) : List Char :=
  cs.flatMap Case.upperChar

/-- The text in lowercase. -/
def lower (cs : List Char) : List Char :=
  Case.lowerAfter [] cs

/-- Whether the text is in uppercase and has some letter that shows it. -/
def isUpperCase (cs : List Char) : Bool :=
  cs == upper cs && cs != lower cs

/-- Whether the text is in lowercase and has some letter that shows it. -/
def isLowerCase (cs : List Char) : Bool :=
  cs == lower cs && cs != upper cs

end SheetLint.Text
