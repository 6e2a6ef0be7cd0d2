import SheetLint.Double.Shortest
import SheetLint.Decimal

/-!
# Doubles as text

The text of a double is its shortest decimal, laid out with a point among the
digits or with an exponent. A layout says which decimal exponents are written
with a point, and how a number that is none is called.
-/

namespace SheetLint.Double
set_option autoImplicit false

/-- The decisions of a layout. -/
structure Layout where
  positionalB : Int → Bool
  notANumber : String

/-- Every number with a point. -/
def Layout.plain : Layout := ⟨fun _ => true, "nan"⟩

/-- Numbers from `10 ^ -4` up to `10 ^ 16` with a point, others with an exponent. -/
def Layout.scientific : Layout := ⟨fun e => -4 ≤ e && e < 16, "NaN"⟩

/-- The decimal with a point, and at least one digit on either side of it. -/
def positional (d : Digits) : List Char :=
  let digits := Nat.toDigits 10 d.digits
  match d.exponent with
  | .ofNat e => digits ++ List.replicate e '0' ++ ['.', '0']
  | .negSucc e =>
    let padded := List.replicate (e + 2 - digits.length) '0' ++ digits
    padded.take (padded.length - (e + 1)) ++ '.' :: padded.drop (padded.length - (e + 1))

/-- The exponent of the first digit. -/
def leading (d : Digits) : Int :=
  d.exponent + (Nat.toDigits 10 d.digits).length - 1

/-- The decimal with one digit before the point and an exponent. -/
def exponential (d : Digits) : List Char :=
  let tail := (Nat.toDigits 10 d.digits).tail
  (Nat.toDigits 10 d.digits).take 1 ++ (if tail = [] then [] else '.' :: tail) ++
    'e' :: (toString (leading d)).toList

/-- The text of a double in a layout. -/
def text (layout : Layout) (x : Float) : String :=
  if x.isNaN then layout.notANumber
  else
    let sign := if x.toBits ≥ 0x8000000000000000 then ['-'] else []
    let magnitude := x.toBits % 0x8000000000000000
    if x.isInf then String.ofList (sign ++ "inf".toList)
    else if magnitude = 0 then String.ofList (sign ++ "0.0".toList)
    else
      let d := shortest (.ofBits magnitude)
      String.ofList (sign ++ if layout.positionalB (leading d) then positional d else exponential d)

/-- The double that a decimal rounds to. -/
def ofDecimal (d : Decimal) : Float :=
  let magnitude :=
    if d.zeroB then 0.0
    else if d.finiteB then
      match d.exponent with
      | .ofNat e => Float.ofScientific d.mantissa false e
      | .negSucc e => Float.ofScientific d.mantissa true (e + 1)
    else 1.0 / 0.0
  if d.negative then -magnitude else magnitude

end SheetLint.Double
