import SheetLint.Double.Text
import SheetLint.Json.Quoted
import SheetLint.Toml
import SheetLint.Text.Number

/-!
# TOML values as text

A value on one line, as it would stand after the equals sign. A string is
written in the first form that fits: between quotes where nothing has to be
escaped; between apostrophes where it has no apostrophe, line end or control
character; in triple quotes, then triple apostrophes, where those need no
escape; and otherwise with escapes.
-/

namespace SheetLint.Toml
set_option autoImplicit false

/-- The number in decimal, with zeros in front up to a width. -/
def padded (width n : Nat) : String :=
  let digits := Nat.toDigits 10 n
  String.ofList (List.replicate (width - digits.length) '0' ++ digits)

/-- A date as text. -/
def Date.text (d : Date) : String :=
  padded 4 d.year ++ "-" ++ padded 2 d.month ++ "-" ++ padded 2 d.day

/-- A time as text; the fraction of a second without zeros at its end. -/
def Time.text (t : Time) : String :=
  let fraction := ((padded 9 t.nanosecond).toList.reverse.dropWhile (· == '0')).reverse
  padded 2 t.hour ++ ":" ++ padded 2 t.minute ++ ":" ++ padded 2 t.second ++
    (if t.nanosecond = 0 then "" else "." ++ String.ofList fraction)

/-- An offset as text. -/
def Offset.text : Offset → String
  | universal => "Z"
  | minutes n =>
    (if n < 0 then "-" else "+") ++ padded 2 (n.natAbs / 60) ++ ":" ++ padded 2 (n.natAbs % 60)

/-- A date and time as text. -/
def Datetime.text (d : Datetime) : String :=
  ((d.date.map Date.text).getD "") ++
    (if d.date.isSome ∧ d.time.isSome then "T" else "") ++
    ((d.time.map Time.text).getD "") ++
    ((d.offset.map Offset.text).getD "")

/-- Whether `c` is a control character that no string may hold as it is. -/
def isControl (c : Char) : Bool :=
  (c.toNat < 0x20 && c != '\t' && c != '\n') || c.toNat == 0x7F

/-- The longest run of `c` in a text, after a run of `current`. -/
def longestRun (c : Char) (current : Nat) : List Char → Nat
  | [] => current
  | d :: rest => if d = c then longestRun c (current + 1) rest else max current (longestRun c 0 rest)

/-- The escape of a character in a quoted string. -/
def escapeChar (c : Char) : List Char :=
  match c with
  | '\x08' => ['\\', 'b']
  | '\t' => ['\\', 't']
  | '\n' => ['\\', 'n']
  | '\x0c' => ['\\', 'f']
  | '\r' => ['\\', 'r']
  | '"' => ['\\', '"']
  | '\\' => ['\\', '\\']
  | c =>
    if c.toNat < 0x20 ∨ c.toNat = 0x7F then
      '\\' :: 'u' :: '0' :: '0' :: [c.toNat / 16, c.toNat % 16].map fun n => (Json.Quoted.hexDigit n).toUpper
    else [c]

/-- The text of a string between triple quotes: line ends stay, and so do quotes up to two in a
row, `quotes` being how many have come before. -/
def escapeLines (quotes : Nat) : List Char → List Char
  | [] => []
  | '"' :: rest =>
    if quotes < 2 then '"' :: escapeLines (quotes + 1) rest else '\\' :: '"' :: escapeLines 0 rest
  | '\n' :: rest => '\n' :: escapeLines 0 rest
  | c :: rest => escapeChar c ++ escapeLines 0 rest

/-- The text between quotes on one line, with escapes. -/
def quotedText (cs : List Char) : List Char :=
  '"' :: cs.flatMap escapeChar ++ ['"']

/-- The text between triple quotes, with escapes; a text of several lines starts on a new one. -/
def quotedLines (cs : List Char) : List Char :=
  ['"', '"', '"'] ++ (if cs.contains '\n' then ['\n'] else []) ++ escapeLines 0 cs ++ ['"', '"', '"']

/-- The text between triple apostrophes, as it is; a text of several lines starts on a new one. -/
def literalLines (cs : List Char) : List Char :=
  ['\'', '\'', '\''] ++ (if cs.contains '\n' then ['\n'] else []) ++ cs ++ ['\'', '\'', '\'']

/-- A string as text. -/
def stringText (cs : List Char) : List Char :=
  let controlB := cs.any isControl
  let lineB := cs.contains '\n'
  let slashB := cs.contains '\\'
  let quotes := longestRun '"' 0 cs
  let apostrophes := longestRun '\'' 0 cs
  if !controlB && !lineB && !slashB && quotes == 0 then quotedText cs
  else if !controlB && !lineB && apostrophes == 0 then '\'' :: cs ++ ['\'']
  else if !controlB && !slashB && decide (quotes ≤ 2) then quotedLines cs
  else if !controlB && decide (apostrophes ≤ 2) then literalLines cs
  else if lineB then quotedLines cs
  else quotedText cs

/-- Whether `c` may stand in a key without quotes. -/
def isBareChar (c : Char) : Bool :=
  c.isAlphanum || c == '_' || c == '-'

/-- A key as text: bare where it can be, else in the first one-line form that fits. -/
def keyText (cs : List Char) : List Char :=
  if !cs.isEmpty && cs.all isBareChar then cs
  else if !cs.any isControl && !cs.contains '\n' && (cs.contains '"' || cs.contains '\\') &&
      !cs.contains '\'' then
    '\'' :: cs ++ ['\'']
  else quotedText cs

/-- Texts with a comma and a blank between each two. -/
def commaSeparated : List (List Char) → List Char
  | [] => []
  | [t] => t
  | t :: rest => t ++ ',' :: ' ' :: commaSeparated rest

namespace Value

mutual

/-- A value on one line. -/
def text : Value → List Char
  | string s => stringText s.toList
  | integer n => (toString n).toList
  | float x => (Double.text .plain x).toList
  | boolean true => ['t', 'r', 'u', 'e']
  | boolean false => ['f', 'a', 'l', 's', 'e']
  | datetime d => d.text.toList
  | array items => '[' :: commaSeparated (itemTexts items) ++ [']']
  | table [] => ['\x7b', '\x7d']
  | table ((k, v) :: rest) =>
    '\x7b' :: ' ' ::
      commaSeparated ((keyText k.toList ++ ' ' :: '=' :: ' ' :: text v) :: entryTexts rest) ++
      [' ', '\x7d']

/-- Each item of an array. -/
def itemTexts : List Value → List (List Char)
  | [] => []
  | v :: rest => text v :: itemTexts rest

/-- Each entry of a table. -/
def entryTexts : List (String × Value) → List (List Char)
  | [] => []
  | (k, v) :: rest => (keyText k.toList ++ ' ' :: '=' :: ' ' :: text v) :: entryTexts rest

end

/-- A value shown on its own. A date or time is then shown as the table that carries its text. -/
def shown : Value → List Char
  | datetime d => text (table [(dateKey, string d.text)])
  | v => v.text

/-- Whether a value reads as a number: a string by its text, any other value by how it is
shown. -/
def isNumber : Value → Bool
  | string s => Text.isNumber s.toList
  | v => Text.isNumber v.shown

end Value
end SheetLint.Toml
