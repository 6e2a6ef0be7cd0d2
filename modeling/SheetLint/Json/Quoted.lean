/-!
# Quoted texts

The body of a quoted JSON text, between its quotes. `encode` writes the quote,
the backslash and the control characters as escapes and all else as itself.
`decode?` reads any body and refuses an escape that names half of a surrogate
pair without its other half.
-/

namespace SheetLint.Json.Quoted
set_option autoImplicit false

/-- The value of a hexadecimal digit. -/
def hexValue? (c : Char) : Option Nat :=
  if '0' ≤ c ∧ c ≤ '9' then some (c.toNat - '0'.toNat)
  else if 'a' ≤ c ∧ c ≤ 'f' then some (c.toNat - 'a'.toNat + 10)
  else if 'A' ≤ c ∧ c ≤ 'F' then some (c.toNat - 'A'.toNat + 10)
  else none

/-- The value of a run of hexadecimal digits. -/
def hexRun? (cs : List Char) : Option Nat :=
  cs.foldlM (fun n c => (hexValue? c).map (16 * n + ·)) 0

/-- The hexadecimal digit of a value below sixteen. -/
def hexDigit (n : Nat) : Char :=
  if n < 10 then Char.ofNat ('0'.toNat + n) else Char.ofNat ('a'.toNat + (n - 10))

/-- The character that a one-letter escape stands for. -/
def escaped? (c : Char) : Option Char :=
  match c with
  | '"' => some '"'
  | '\\' => some '\\'
  | '/' => some '/'
  | 'b' => some '\x08'
  | 'f' => some '\x0c'
  | 'n' => some '\n'
  | 'r' => some '\r'
  | 't' => some '\t'
  | _ => none

/-- The escape of one character, as short as there is one. -/
def encodeChar (c : Char) : List Char :=
  match c with
  | '"' => ['\\', '"']
  | '\\' => ['\\', '\\']
  | '\x08' => ['\\', 'b']
  | '\x0c' => ['\\', 'f']
  | '\n' => ['\\', 'n']
  | '\r' => ['\\', 'r']
  | '\t' => ['\\', 't']
  | c =>
    if c.toNat < 0x20 then
      ['\\', 'u', '0', '0', hexDigit (c.toNat / 16), hexDigit (c.toNat % 16)]
    else [c]

/-- The body that a text is written as. -/
def encode (cs : List Char) : List Char :=
  cs.flatMap encodeChar

/-- Whether a 16-bit unit is the first half of a surrogate pair. -/
def leadsB (unit : Nat) : Bool := 0xD800 ≤ unit && unit < 0xDC00

/-- Whether a 16-bit unit is the second half of a surrogate pair. -/
def trailsB (unit : Nat) : Bool := 0xDC00 ≤ unit && unit < 0xE000

/-- The character that a surrogate pair stands for. -/
def paired (lead trail : Nat) : Char :=
  Char.ofNat (0x10000 + (lead - 0xD800) * 0x400 + (trail - 0xDC00))

/-- The text that a body stands for. -/
def decode? : List Char → Option (List Char)
  | [] => some []
  | '\\' :: 'u' :: a :: b :: c :: d :: rest =>
    match hexRun? [a, b, c, d] with
    | none => none
    | some unit =>
      if trailsB unit then none
      else if leadsB unit then
        match rest with
        | '\\' :: 'u' :: a' :: b' :: c' :: d' :: rest' =>
          match hexRun? [a', b', c', d'] with
          | none => none
          | some trail =>
            if trailsB trail then (decode? rest').map (paired unit trail :: ·) else none
        | _ => none
      else (decode? rest).map (Char.ofNat unit :: ·)
  | '\\' :: e :: rest =>
    match escaped? e with
    | none => none
    | some c => (decode? rest).map (c :: ·)
  | c :: rest =>
    if c = '\\' then none else (decode? rest).map (c :: ·)

end SheetLint.Json.Quoted
