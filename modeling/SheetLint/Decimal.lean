/-!
# Decimal literals

A decimal literal is an optional sign, digits with an optional point among or
around them, and an optional exponent. It denotes the exact rational
`± mantissa × 10 ^ exponent`. Two thresholds of double precision are decided on
that exact value: it rounds to a finite double iff it is below
`2 ^ 1024 - 2 ^ 970`, and to zero iff it is at most `2 ^ -1075`.
-/

namespace SheetLint
set_option autoImplicit false

/-- The number `± mantissa × 10 ^ exponent`. -/
structure Decimal where
  negative : Bool
  mantissa : Nat
  exponent : Int
deriving DecidableEq, Repr, Inhabited

namespace Decimal

/-- The value of a run of decimal digits. -/
def digitsValue (digits : List Char) : Nat :=
  digits.foldl (fun n d => 10 * n + (d.toNat - '0'.toNat)) 0

/-- The sign that a literal starts with (true for minus), and the rest. -/
def splitSign : List Char → Bool × List Char
  | '+' :: rest => (false, rest)
  | '-' :: rest => (true, rest)
  | cs => (false, cs)

/-- The digits a text starts with, and the rest. -/
def splitDigits (cs : List Char) : List Char × List Char :=
  (cs.takeWhile Char.isDigit, cs.dropWhile Char.isDigit)

/-- The exponent part that fills the text, zero where there is none. -/
def readExponent? : List Char → Option Int
  | [] => some 0
  | mark :: rest =>
    if mark = 'e' ∨ mark = 'E' then
      let (negative, digits) := splitSign rest
      if digits ≠ [] ∧ digits.all Char.isDigit then
        let n : Int := digitsValue digits
        some (if negative then -n else n)
      else none
    else none

/-- The digits after the point, if there is one, and what follows them. -/
def splitFraction : List Char → List Char × List Char
  | '.' :: rest => splitDigits rest
  | cs => ([], cs)

/-- The number that the whole text is a literal of. -/
def read? (cs : List Char) : Option Decimal :=
  let (negative, unsigned) := splitSign cs
  let (whole, afterWhole) := splitDigits unsigned
  let (fraction, tail) := splitFraction afterWhole
  if whole = [] ∧ fraction = [] then none
  else (readExponent? tail).map fun e =>
    ⟨negative, digitsValue (whole ++ fraction), e - fraction.length⟩

/-- The least magnitude that rounds to infinity in double precision. -/
def overflow : Nat := Nat.pow 2 1024 - Nat.pow 2 970

/-- The nearest number with at most 53 significant bits, which is the precision of a double; of two
that are equally near the one with an even last bit. -/
def toPrecision (n : Nat) : Nat :=
  let unit := Nat.pow 2 (n.log2 - 52)
  let units := n / unit
  let half := 2 * (n % unit)
  if unit < half ∨ (half = unit ∧ units % 2 = 1) then (units + 1) * unit else units * unit

/-- Whether the number rounds to a finite double. A large power of ten is never computed: beyond
`10 ^ 400` everything but zero is too large, and a number with fewer bits than negative powers of
ten is below one. -/
def finiteB (d : Decimal) : Bool :=
  d.mantissa == 0 ||
    match d.exponent with
    | .ofNat e => decide (e ≤ 400) && decide (d.mantissa * Nat.pow 10 e < overflow)
    | .negSucc e =>
      decide (d.mantissa.log2 < e) || decide (d.mantissa < overflow * Nat.pow 10 (e + 1))

/-- Whether the number rounds to zero in double precision. -/
def zeroB (d : Decimal) : Bool :=
  d.mantissa == 0 ||
    match d.exponent with
    | .ofNat _ => false
    | .negSucc e =>
      decide (d.mantissa.log2 + 1075 < e) ||
        decide (d.mantissa * Nat.pow 2 1075 ≤ Nat.pow 10 (e + 1))

end Decimal
end SheetLint
