/-!
# Shortest decimals of doubles

A positive double is `m × 2 ^ q`, and every real in an interval around it
rounds to it. Its shortest decimal is the one of fewest digits in that
interval, of two such the nearer. The search is exact: it tries the grids of
powers of ten from the coarsest on and looks at the two neighbours of the value
on each.
-/

namespace SheetLint.Double
set_option autoImplicit false

/-- The number `digits × 10 ^ exponent`. -/
structure Digits where
  digits : Nat
  exponent : Int
deriving DecidableEq, Repr, Inhabited

/-- The positive number `m × 2 ^ q`, with `m` below `2 ^ 53`. -/
structure Binary where
  m : Nat
  q : Int
deriving DecidableEq, Repr, Inhabited

/-- The fields of a double's bit pattern as a binary number. -/
def Binary.ofBits (bits : UInt64) : Binary :=
  let fraction := bits.toNat % Nat.pow 2 52
  let biased := bits.toNat / Nat.pow 2 52 % Nat.pow 2 11
  if biased = 0 then ⟨fraction, -1074⟩ else ⟨Nat.pow 2 52 + fraction, Int.ofNat biased - 1075⟩

/-- The numerator of `n × 2 ^ a × 10 ^ b` over the denominator `2 ^ (-a)⁺ × 10 ^ (-b)⁺`. -/
def scaled (n : Nat) (a b : Int) : Nat :=
  n * Nat.pow 2 a.toNat * Nat.pow 10 b.toNat

/-- The decimal on the grid of `10 ^ k` that rounds to `x`, if there is one: of the two grid points
around `x`, those inside the rounding interval, and of two the nearer, the upper on a tie. -/
def onGrid? (x : Binary) (k : Int) : Option Digits :=
  -- everything in quarters of the last place, over a common denominator
  let q := x.q - 2
  let unit := fun (n : Nat) => scaled n q (-k)
  let grid := fun (d : Nat) => scaled d (-q) k
  let value := unit (4 * x.m)
  let low := unit (if x.m = Nat.pow 2 52 ∧ -1074 < x.q then 4 * x.m - 1 else 4 * x.m - 2)
  let high := unit (4 * x.m + 2)
  let insideB := fun (d : Nat) =>
    if x.m % 2 = 0 then decide (low ≤ grid d ∧ grid d ≤ high)
    else decide (low < grid d ∧ grid d < high)
  let d := value / grid 1
  let belowB := insideB d
  let aboveB := insideB (d + 1)
  if belowB ∧ (!aboveB ∨ value - grid d < grid (d + 1) - value) then some ⟨d, k⟩
  else if aboveB then some ⟨d + 1, k⟩
  else none

/-- A power of ten above `m × 2 ^ q`. -/
def ceilingExponent (x : Binary) : Int :=
  (Int.ofNat x.m.log2 + x.q + 1) * 30103 / 100000 + 2

/-- The shortest decimal that rounds to a positive double. -/
def shortest (x : Binary) : Digits :=
  ((List.range 24).findSome? fun i => onGrid? x (ceilingExponent x - Int.ofNat i)).getD
    ⟨x.m, x.q⟩

end SheetLint.Double
