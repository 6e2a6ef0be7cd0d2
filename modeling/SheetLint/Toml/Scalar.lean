import SheetLint.Decimal
import SheetLint.Double.Text
import SheetLint.Toml.Text

/-!
# Numbers, truth values, dates and times

A value that is neither a string nor in brackets is a word of letters, digits
and a few signs. A date may be followed by one blank and a time. A date or time
is also carried as a text, where an offset is only held to a day in all.
-/

namespace SheetLint.Toml
set_option autoImplicit false

/-- Whether `c` may stand in a word. -/
def isWordChar (c : Char) : Bool :=
  c.isAlphanum || c == '_' || c == '+' || c == '-' || c == '.' || c == ':'

/-- The digits with the underscores between them taken out; none where an underscore does not stand
between two digits or something else is no digit. -/
def plainDigits? (isDigit : Char → Bool) : List Char → Option (List Char)
  | [] => none
  | [d] => if isDigit d then some [d] else none
  | d :: '_' :: rest => if isDigit d then (plainDigits? isDigit rest).map (d :: ·) else none
  | d :: rest => if isDigit d then (plainDigits? isDigit rest).map (d :: ·) else none

/-- The value of a digit in a base up to sixteen. -/
def digitIn? (base : Nat) (c : Char) : Option Nat :=
  (Json.Quoted.hexValue? c).filter (· < base)

/-- The number that digits in a base stand for. -/
def natIn? (base : Nat) (cs : List Char) : Option Nat :=
  (plainDigits? (fun c => (digitIn? base c).isSome) cs).bind
    (·.foldlM (fun n c => (digitIn? base c).map (base * n + ·)) 0)

/-- Whether digits have a needless zero in front. -/
def zeroLedB (digits : List Char) : Bool :=
  digits.length != 1 && digits.head? == some '0'

/-- The integer if it is within 64 bits. -/
def int64? (n : Int) : Option Int :=
  if -Int.ofNat (Nat.pow 2 63) ≤ n ∧ n < Int.ofNat (Nat.pow 2 63) then some n else none

/-- An integer: decimal with an optional sign, or hexadecimal, octal or binary without one. -/
def integer? : List Char → Option Int
  | '0' :: 'x' :: rest => (natIn? 16 rest).bind fun n => int64? n
  | '0' :: 'o' :: rest => (natIn? 8 rest).bind fun n => int64? n
  | '0' :: 'b' :: rest => (natIn? 2 rest).bind fun n => int64? n
  | cs =>
    let (negative, digits) := Decimal.splitSign cs
    if zeroLedB digits then none
    else (natIn? 10 digits).bind fun n => int64? (if negative then -(n : Int) else n)

/-- The exponent part of a float, without underscores; empty where there is none. -/
def floatExponent? : List Char → Option (List Char)
  | [] => some []
  | mark :: rest =>
    if mark = 'e' ∨ mark = 'E' then
      let sign := match rest with
        | '+' :: _ => ['+']
        | '-' :: _ => ['-']
        | _ => []
      (plainDigits? Char.isDigit (Decimal.splitSign rest).2).map fun digits => 'e' :: sign ++ digits
    else none

/-- The fraction and exponent of a float, without underscores. One of them has to be there. -/
def floatTail? : List Char → Option (List Char)
  | '.' :: rest =>
    let digits := rest.takeWhile fun c => c.isDigit || c == '_'
    (plainDigits? Char.isDigit digits).bind fun digits =>
      (floatExponent? (rest.dropWhile fun c => c.isDigit || c == '_')).map fun e =>
        '.' :: digits ++ e
  | [] => none
  | cs => floatExponent? cs

/-- A float. A positive literal beyond double precision is refused; a negative one is read as
negative infinity. -/
def float? (cs : List Char) : Option Float :=
  let (negative, unsigned) := Decimal.splitSign cs
  if unsigned = "inf".toList then some (if negative then -(1.0 / 0.0) else 1.0 / 0.0)
  else if unsigned = "nan".toList then some (0.0 / 0.0)
  else
    let whole := unsigned.takeWhile fun c => c.isDigit || c == '_'
    let tail := unsigned.dropWhile fun c => c.isDigit || c == '_'
    match plainDigits? Char.isDigit whole, floatTail? tail with
    | some digits, some tail =>
      if zeroLedB digits then none
      else (Decimal.read? (digits ++ tail)).bind fun d =>
        if d.finiteB || negative then some (Double.ofDecimal { d with negative := negative })
        else none
    | _, _ => none

/-- The number that exactly `width` digits stand for, and the rest. -/
def fixed? (width : Nat) (cs : List Char) : Option (Nat × List Char) :=
  let digits := cs.take width
  if digits.length = width ∧ digits.all Char.isDigit then
    some (Decimal.digitsValue digits, cs.drop width)
  else none

/-- Whether a year has a 29th of February. -/
def leapB (year : Nat) : Bool :=
  year % 4 == 0 && (year % 100 != 0 || year % 400 == 0)

/-- How many days a month has. -/
def daysIn (year month : Nat) : Nat :=
  if month = 2 then (if leapB year then 29 else 28)
  else if month = 4 ∨ month = 6 ∨ month = 9 ∨ month = 11 then 30 else 31

/-- The text after one expected character. -/
def expect? (c : Char) : List Char → Option (List Char)
  | d :: rest => if d = c then some rest else none
  | [] => none

theorem length_expect? {c : Char} {cs rest : List Char} (eq : expect? c cs = some rest) :
    rest.length ≤ cs.length := by
  cases cs with
  | nil => simp [expect?] at eq
  | cons d cs =>
    simp only [expect?, Option.ite_none_right_eq_some, Option.some.injEq] at eq
    simp [← eq.2]

/-- A date, and the rest. -/
def date? (cs : List Char) : Option (Date × List Char) := do
  let (year, cs) ← fixed? 4 cs
  let cs ← expect? '-' cs
  let (month, cs) ← fixed? 2 cs
  let cs ← expect? '-' cs
  let (day, cs) ← fixed? 2 cs
  if 1 ≤ month ∧ month ≤ 12 ∧ 1 ≤ day ∧ day ≤ daysIn year month then
    some (⟨year, month, day⟩, cs)
  else none

/-- The nanoseconds that the digits after the point stand for, up to nine of them. -/
def nanoseconds (digits : List Char) : Nat :=
  let kept := digits.take 9
  Decimal.digitsValue kept * Nat.pow 10 (9 - kept.length)

/-- A time of day, and the rest. -/
def time? (cs : List Char) : Option (Time × List Char) := do
  let (hour, cs) ← fixed? 2 cs
  let cs ← expect? ':' cs
  let (minute, cs) ← fixed? 2 cs
  let cs ← expect? ':' cs
  let (second, cs) ← fixed? 2 cs
  if hour ≤ 23 ∧ minute ≤ 59 ∧ second ≤ 60 then
    match cs with
    | '.' :: rest =>
      let digits := rest.takeWhile Char.isDigit
      if digits = [] then none
      else some (⟨hour, minute, second, nanoseconds digits⟩, rest.dropWhile Char.isDigit)
    | _ => some (⟨hour, minute, second, 0⟩, cs)
  else none

/-- How far the hours and minutes of an offset reach. -/
structure OffsetBounds where
  holdsB : Nat → Nat → Bool

/-- In a document, hours and minutes each stay below their number in a day and an hour. -/
def OffsetBounds.literal : OffsetBounds := ⟨fun hours minutes => hours ≤ 23 && minutes ≤ 59⟩

/-- In a text, hours and minutes come to a day at most. -/
def OffsetBounds.carried : OffsetBounds := ⟨fun hours minutes => hours * 60 + minutes ≤ 24 * 60⟩

/-- An offset that fills the text, if there is anything. -/
def offset? (bounds : OffsetBounds) : List Char → Option (Option Offset)
  | [] => some none
  | ['Z'] => some (some .universal)
  | ['z'] => some (some .universal)
  | sign :: rest => do
    if sign ≠ '+' ∧ sign ≠ '-' then none
    else
      let (hour, rest) ← fixed? 2 rest
      let rest ← expect? ':' rest
      let (minute, rest) ← fixed? 2 rest
      if bounds.holdsB hour minute ∧ rest = [] then
        let total : Int := hour * 60 + minute
        some (some (.minutes (if sign = '-' then -total else total)))
      else none

/-- A date, a time, or both. -/
def datetime? (bounds : OffsetBounds) (cs : List Char) : Option Datetime :=
  match date? cs with
  | some (date, []) => some ⟨some date, none, none⟩
  | some (date, mark :: rest) =>
    if mark = 'T' ∨ mark = 't' ∨ mark = ' ' then do
      let (time, rest) ← time? rest
      let offset ← offset? bounds rest
      some ⟨some date, some time, offset⟩
    else none
  | none =>
    match time? cs with
    | some (time, []) => some ⟨none, some time, none⟩
    | _ => none

/-- The value that a word stands for. -/
def word? (cs : List Char) : Option Value :=
  if cs = "true".toList then some (.boolean true)
  else if cs = "false".toList then some (.boolean false)
  else
    ((datetime? .literal cs).map .datetime).or
      (((integer? cs).map .integer).or ((float? cs).map .float))

/-- The value of a word, or of a date with a blank and a time after it. -/
def scalar : (cs : List Char) → Option (Cut Value cs)
  | [] => none
  | c :: rest =>
    if isWordChar c then
      let word := c :: rest.takeWhile isWordChar
      let after := rest.dropWhile isWordChar
      have shorter : after.length < (c :: rest).length := by
        have := length_dropWhile_le isWordChar rest
        simp only [after, List.length_cons]; omega
      match eq : after with
      | ' ' :: d :: more =>
        if d.isDigit ∧ (date? word).isSome then
          (word? (word ++ ' ' :: d :: more.takeWhile isWordChar)).map fun v =>
            ⟨v, more.dropWhile isWordChar, by
              have := length_dropWhile_le isWordChar more
              simp only [List.length_cons] at shorter ⊢; omega⟩
        else (word? word).map fun v => ⟨v, ' ' :: d :: more, shorter⟩
      | after' => (word? word).map fun v => ⟨v, after', shorter⟩
    else none

end SheetLint.Toml
