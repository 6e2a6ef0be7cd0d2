import SheetLint.Decimal

/-!
# Numerals

The spelling of a JSON number: an optional minus, digits without a needless
leading zero, an optional fraction and an optional exponent. Only a numeral of
digits alone counts as a natural number. Any other is a double, computed from
as many of its digits as fit into 64 bits and a power of ten.
-/

namespace SheetLint.Json.Numeral
set_option autoImplicit false

/-- The characters that numerals are made of. -/
def isNumeralChar (c : Char) : Bool :=
  c.isDigit || c == '-' || c == '+' || c == '.' || c == 'e' || c == 'E'

/-- Whether digits stand for the whole part of a numeral. -/
def wholeB (digits : List Char) : Bool :=
  match digits with
  | [] => false
  | ['0'] => true
  | d :: _ => d != '0'

/-- Whether the text is an exponent part or nothing. -/
def exponentB : List Char → Bool
  | [] => true
  | mark :: rest =>
    (mark == 'e' || mark == 'E') &&
      let digits := (Decimal.splitSign rest).2
      !digits.isEmpty && digits.all Char.isDigit

/-- Whether the text is a fraction, an exponent part, both in this order, or nothing. -/
def tailB : List Char → Bool
  | '.' :: rest => !(Decimal.splitDigits rest).1.isEmpty && exponentB (Decimal.splitDigits rest).2
  | cs => exponentB cs

/-- Whether the text is a numeral. -/
def numeralB (cs : List Char) : Bool :=
  let unsigned := match cs with
    | '-' :: rest => rest
    | _ => cs
  wholeB (Decimal.splitDigits unsigned).1 && tailB (Decimal.splitDigits unsigned).2

/-- The natural number that a numeral of digits alone stands for. -/
def toNat? (literal : List Char) : Option Nat :=
  if literal ≠ [] ∧ literal.all Char.isDigit then some (Decimal.digitsValue literal) else none

/-- A numeral as it is held: `± significand × 10 ^ exponent`, with a significand of 64 bits. -/
structure Held where
  negative : Bool
  significand : Nat
  exponent : Int
deriving DecidableEq, Repr

/-- The significand after as many digits as fit into 64 bits, and the digits that are left. -/
def takeDigits (significand : Nat) : List Char → Nat × List Char
  | [] => (significand, [])
  | d :: rest =>
    let next := 10 * significand + Decimal.digitsValue [d]
    if next < Nat.pow 2 64 then takeDigits next rest else (significand, d :: rest)

/-- The numeral as it is held. Of the whole part, the digits that do not fit count towards the
exponent; of the fraction, those from the first that does not fit are dropped. -/
def held (literal : List Char) : Held :=
  let (negative, unsigned) := Decimal.splitSign literal
  let (whole, afterWhole) := Decimal.splitDigits unsigned
  let (fraction, tail) := Decimal.splitFraction afterWhole
  let (start, left) := takeDigits 0 whole
  let (significand, dropped) := takeDigits start fraction
  let taken : Int := fraction.length - dropped.length
  ⟨negative, significand, (Decimal.readExponent? tail).getD 0 + left.length - taken⟩

/-- The greatest power of ten in double precision. -/
def maxExponent : Nat := 308

/-- Whether a numeral is within the range of double precision: the product of its significand and
its power of ten is, each of them rounded first. -/
def finiteB (literal : List Char) : Bool :=
  let h := held literal
  h.significand == 0 ||
    match h.exponent with
    | .ofNat e =>
      decide (e ≤ maxExponent) && decide
        (Decimal.toPrecision h.significand * Decimal.toPrecision (Nat.pow 10 e) < Decimal.overflow)
    | .negSucc _ => true

/-- A power of ten in double precision. -/
def tenTo (e : Nat) : Float := Float.ofScientific 1 false e

/-- The double that a numeral is read as. A division takes off as much of a negative exponent as a
double can hold, and after two of them nothing is left of any significand. -/
def toDouble (literal : List Char) : Float :=
  let h := held literal
  let significand := h.significand.toUInt64.toFloat
  let magnitude := match h.exponent with
    | .ofNat e =>
      if h.significand = 0 then 0.0
      else if e ≤ maxExponent then significand * tenTo e
      else 1.0 / 0.0
    | .negSucc e =>
      if e < maxExponent then significand / tenTo (e + 1)
      else significand / tenTo maxExponent / tenTo (min (e + 1 - maxExponent) maxExponent)
  if h.negative then -magnitude else magnitude

end SheetLint.Json.Numeral
