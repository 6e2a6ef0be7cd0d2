import SheetLint.Json.Quoted
import SheetLint.Json.Numeral

/-!
# Tokens

The tokens of a JSON text, cut off its front one after the other. Only the four
JSON blanks may stand between tokens.
-/

namespace SheetLint.Json
set_option autoImplicit false

/-- A token; quoted texts and numbers as written. -/
inductive Token where
  | openArray
  | closeArray
  | openObject
  | closeObject
  | comma
  | colon
  | null
  | bool (value : Bool)
  | number (literal : List Char)
  | text (body : List Char)
deriving DecidableEq, Repr

namespace Token

/-- The characters that may stand between tokens. -/
def isSpace (c : Char) : Bool :=
  c == ' ' || c == '\t' || c == '\n' || c == '\r'

/-- The body of a quoted text up to its closing quote, and what follows that quote. -/
def scanBody? : List Char → Option (List Char × List Char)
  | [] => none
  | '"' :: rest => some ([], rest)
  | '\\' :: 'u' :: a :: b :: c :: d :: rest =>
    if (Quoted.hexRun? [a, b, c, d]).isSome then
      (scanBody? rest).map fun r => ('\\' :: 'u' :: a :: b :: c :: d :: r.1, r.2)
    else none
  | '\\' :: e :: rest =>
    if (Quoted.escaped? e).isSome then (scanBody? rest).map fun r => ('\\' :: e :: r.1, r.2)
    else none
  | c :: rest =>
    if c.toNat < 0x20 ∨ c = '\\' then none
    else (scanBody? rest).map fun r => (c :: r.1, r.2)

/-- The number or word that starts with `c`, and what follows it. -/
def scanWord? (c : Char) (rest : List Char) : Option (Token × List Char) :=
  match c, rest with
  | 'n', 'u' :: 'l' :: 'l' :: rest => some (.null, rest)
  | 't', 'r' :: 'u' :: 'e' :: rest => some (.bool true, rest)
  | 'f', 'a' :: 'l' :: 's' :: 'e' :: rest => some (.bool false, rest)
  | c, rest =>
    let literal := c :: rest.takeWhile Numeral.isNumeralChar
    if Numeral.numeralB literal then some (.number literal, rest.dropWhile Numeral.isNumeralChar)
    else none

/-- The token that starts with `c`, and what follows it. -/
def next? (c : Char) (rest : List Char) : Option (Token × List Char) :=
  match c with
  | '[' => some (.openArray, rest)
  | ']' => some (.closeArray, rest)
  | '\x7b' => some (.openObject, rest)
  | '\x7d' => some (.closeObject, rest)
  | ',' => some (.comma, rest)
  | ':' => some (.colon, rest)
  | '"' => (scanBody? rest).map fun r => (.text r.1, r.2)
  | c => scanWord? c rest

theorem length_scanBody? (cs : List Char) :
    ∀ body rest, scanBody? cs = some (body, rest) → rest.length ≤ cs.length := by
  fun_induction scanBody? cs with
  | case1 | case4 | case6 | case7 => simp
  | case2 rest => rintro body rest' ⟨⟩; simp
  | case3 _ _ _ _ rest _ ih | case5 _ rest _ _ ih | case8 _ rest _ _ _ _ ih =>
    intro body rest' eq
    obtain ⟨⟨b, r⟩, found, same⟩ := Option.map_eq_some_iff.1 eq
    have := ih b r found
    simp only [Prod.mk.injEq] at same
    simp only [List.length_cons, ← same.2]
    omega

theorem length_scanWord? {c : Char} {cs : List Char} {t : Token} {rest : List Char}
    (eq : scanWord? c cs = some (t, rest)) : rest.length ≤ cs.length := by
  unfold scanWord? at eq
  split at eq
  case h_4 =>
    dsimp only at eq
    split at eq
    · simp only [Option.some.injEq, Prod.mk.injEq] at eq
      rw [← eq.2]
      exact (List.dropWhile_suffix _).length_le
    · simp at eq
  all_goals
    simp only [Option.some.injEq, Prod.mk.injEq] at eq
    simp only [List.length_cons, ← eq.2]
    omega

theorem length_next? {c : Char} {cs : List Char} {t : Token} {rest : List Char}
    (eq : next? c cs = some (t, rest)) : rest.length ≤ cs.length := by
  unfold next? at eq
  split at eq
  case h_7 =>
    obtain ⟨⟨b, r⟩, found, same⟩ := Option.map_eq_some_iff.1 eq
    simp only [Prod.mk.injEq] at same
    exact same.2 ▸ length_scanBody? cs b r found
  case h_8 => exact length_scanWord? eq
  all_goals
    simp only [Option.some.injEq, Prod.mk.injEq] at eq
    exact Nat.le_of_eq (congrArg List.length eq.2.symm)

/-- The tokens of a text after those in `done`, which holds the latest first. -/
def scanFrom? (done : List Token) (cs : List Char) : Option (List Token) :=
  match cs with
  | [] => some done.reverse
  | c :: rest =>
    if isSpace c then scanFrom? done rest
    else match eq : next? c rest with
      | none => none
      | some (t, rest') =>
        have := length_next? eq
        scanFrom? (t :: done) rest'
termination_by cs.length
decreasing_by all_goals (simp only [List.length_cons]; omega)

/-- The tokens of a text. -/
def scan? (cs : List Char) : Option (List Token) :=
  scanFrom? [] cs

end Token
end SheetLint.Json
