import SheetLint.Json.Quoted
import SheetLint.Toml.Cut
import SheetLint.Toml.Writer

/-!
# Strings, keys and blanks

The parts of a TOML text below the level of values: blanks, comments and line
ends, the four forms of strings, and keys.
-/

namespace SheetLint.Toml
set_option autoImplicit false

/-- Whether `c` is a blank within a line. -/
def isInlineBlank (c : Char) : Bool :=
  c == ' ' || c == '\t'

/-- Whether `c` may stand in a comment, or in a string as it is. -/
def isPlain (c : Char) : Bool :=
  c == '\t' || (0x20 ≤ c.toNat && c.toNat != 0x7F)

/-- The text after the blanks it starts with. -/
def skipBlanks (cs : List Char) : List Char :=
  cs.dropWhile isInlineBlank

/-- The text after the line end it starts with. -/
def lineEnd? : List Char → Option (List Char)
  | '\n' :: rest => some rest
  | '\r' :: '\n' :: rest => some rest
  | _ => none

/-- The text after blanks, line ends and comments. -/
def skipTrivia (cs : List Char) : List Char :=
  match cs with
  | [] => []
  | '\r' :: '\n' :: rest => skipTrivia rest
  | '#' :: rest => skipTrivia (rest.dropWhile isPlain)
  | c :: rest => if isInlineBlank c ∨ c = '\n' then skipTrivia rest else c :: rest
termination_by cs.length
decreasing_by
  all_goals simp only [List.length_cons]
  all_goals have := length_dropWhile_le isPlain rest
  all_goals omega

/-- The text after the comment it starts with, up to the line end. -/
def skipComment : List Char → List Char
  | '#' :: rest => rest.dropWhile isPlain
  | cs => cs

/-- The text after the rest of a line that has nothing but blanks and a comment on it. -/
def endLine? (cs : List Char) : Option (List Char) :=
  let rest := skipComment (skipBlanks cs)
  if rest = [] then some [] else lineEnd? rest

/-- The character of a code point that names one. -/
def scalar? (n : Nat) : Option Char :=
  if n.isValidChar then some (Char.ofNat n) else none

/-- The character that an escape stands for, after its backslash. -/
def escape? : (cs : List Char) → Option (Cut Char cs)
  | 'b' :: rest => some ⟨'\x08', rest, by simp⟩
  | 't' :: rest => some ⟨'\t', rest, by simp⟩
  | 'n' :: rest => some ⟨'\n', rest, by simp⟩
  | 'f' :: rest => some ⟨'\x0c', rest, by simp⟩
  | 'r' :: rest => some ⟨'\r', rest, by simp⟩
  | '"' :: rest => some ⟨'"', rest, by simp⟩
  | '\\' :: rest => some ⟨'\\', rest, by simp⟩
  | 'u' :: a :: b :: c :: d :: rest =>
    ((Json.Quoted.hexRun? [a, b, c, d]).bind scalar?).map fun ch =>
      ⟨ch, rest, by simp only [List.length_cons]; omega⟩
  | 'U' :: a :: b :: c :: d :: e :: f :: g :: h :: rest =>
    ((Json.Quoted.hexRun? [a, b, c, d, e, f, g, h]).bind scalar?).map fun ch =>
      ⟨ch, rest, by simp only [List.length_cons]; omega⟩
  | _ => none

/-- A quoted string on one line, after its opening quote. -/
def quoted? (cs : List Char) : Option (Cut (List Char) cs) :=
  match cs with
  | [] => none
  | '"' :: rest => some ⟨[], rest, by simp⟩
  | '\\' :: rest =>
    match escape? rest with
    | none => none
    | some ch =>
      (quoted? ch.rest).map fun cut =>
        (cut.map (ch.value :: ·)).widen (by have := ch.shorter; simp only [List.length_cons]; omega)
  | c :: rest =>
    if isPlain c then (quoted? rest).map fun cut => (cut.map (c :: ·)).widen (by simp) else none
termination_by cs.length
decreasing_by
  · have := ch.shorter; simp only [List.length_cons]; omega
  · simp

/-- A literal string on one line, after its opening apostrophe. -/
def literal? : (cs : List Char) → Option (Cut (List Char) cs)
  | [] => none
  | '\'' :: rest => some ⟨[], rest, by simp⟩
  | c :: rest =>
    if isPlain c then (literal? rest).map fun cut => (cut.map (c :: ·)).widen (by simp) else none

/-- The text after blanks and line ends. -/
def skipLines : List Char → List Char
  | [] => []
  | '\r' :: '\n' :: rest => skipLines rest
  | c :: rest => if isInlineBlank c ∨ c = '\n' then skipLines rest else c :: rest

/-- What a backslash at the end of a line leaves: the text after all blanks and line ends, none
where something else stands on the line. -/
def continueLine? (cs : List Char) : Option (List Char) :=
  (lineEnd? (skipBlanks cs)).map skipLines

theorem length_skipLines (cs : List Char) : (skipLines cs).length ≤ cs.length := by
  fun_induction skipLines cs with
  | case1 => simp
  | case2 rest ih => simp only [List.length_cons]; omega
  | case3 c rest _ _ ih => simp only [List.length_cons]; omega
  | case4 => simp

theorem length_lineEnd? {cs rest : List Char} (eq : lineEnd? cs = some rest) :
    rest.length < cs.length := by
  fun_cases lineEnd? cs with
  | case1 more => simp only [lineEnd?, Option.some.injEq] at eq; simp [← eq]
  | case2 more =>
    simp only [lineEnd?, Option.some.injEq] at eq
    simp only [← eq, List.length_cons]
    omega
  | case3 _ _ => simp_all [lineEnd?]

theorem length_continueLine? {cs rest : List Char} (eq : continueLine? cs = some rest) :
    rest.length < cs.length := by
  obtain ⟨after, found, rfl⟩ := Option.map_eq_some_iff.1 eq
  have h1 := length_lineEnd? found
  have h2 := length_dropWhile_le isInlineBlank cs
  have h3 := length_skipLines after
  simp only [skipBlanks] at h1
  omega

/-- A quoted string over several lines, after its opening quotes. Up to two quotes may stand right
before the closing three. -/
def quotedLines? (cs : List Char) : Option (Cut (List Char) cs) :=
  match cs with
  | [] => none
  | '"' :: '"' :: '"' :: '"' :: '"' :: rest =>
    some ⟨['"', '"'], rest, by simp only [List.length_cons]; omega⟩
  | '"' :: '"' :: '"' :: '"' :: rest =>
    some ⟨['"'], rest, by simp only [List.length_cons]; omega⟩
  | '"' :: '"' :: '"' :: rest => some ⟨[], rest, by simp only [List.length_cons]; omega⟩
  | '\\' :: rest =>
    match eq : continueLine? rest with
    | some rest' =>
      (quotedLines? rest').map fun cut =>
        cut.widen (by have := length_continueLine? eq; simp only [List.length_cons]; omega)
    | none =>
      match escape? rest with
      | none => none
      | some ch =>
        (quotedLines? ch.rest).map fun cut =>
          (cut.map (ch.value :: ·)).widen (by have := ch.shorter; simp only [List.length_cons]; omega)
  | '\r' :: '\n' :: rest =>
    (quotedLines? rest).map fun cut =>
      (cut.map ('\n' :: ·)).widen (by simp only [List.length_cons]; omega)
  | c :: rest =>
    if isPlain c ∨ c = '\n' then
      (quotedLines? rest).map fun cut => (cut.map (c :: ·)).widen (by simp)
    else none
termination_by cs.length
decreasing_by
  · have := length_continueLine? eq; simp only [List.length_cons]; omega
  · have := ch.shorter; simp only [List.length_cons]; omega
  · simp only [List.length_cons]; omega
  · simp

/-- A literal string over several lines, after its opening apostrophes. Up to two apostrophes may
stand right before the closing three. -/
def literalLines? : (cs : List Char) → Option (Cut (List Char) cs)
  | [] => none
  | '\'' :: '\'' :: '\'' :: '\'' :: '\'' :: rest =>
    some ⟨['\'', '\''], rest, by simp only [List.length_cons]; omega⟩
  | '\'' :: '\'' :: '\'' :: '\'' :: rest =>
    some ⟨['\''], rest, by simp only [List.length_cons]; omega⟩
  | '\'' :: '\'' :: '\'' :: rest => some ⟨[], rest, by simp only [List.length_cons]; omega⟩
  | '\r' :: '\n' :: rest =>
    (literalLines? rest).map fun cut =>
      (cut.map ('\n' :: ·)).widen (by simp only [List.length_cons]; omega)
  | c :: rest =>
    if isPlain c ∨ c = '\n' then
      (literalLines? rest).map fun cut => (cut.map (c :: ·)).widen (by simp)
    else none

/-- The text after a line end that it may start with. -/
def skipLineEnd (cs : List Char) : List Char :=
  (lineEnd? cs).getD cs

theorem length_skipLineEnd (cs : List Char) : (skipLineEnd cs).length ≤ cs.length := by
  unfold skipLineEnd
  cases eq : lineEnd? cs with
  | none => simp
  | some rest => exact Nat.le_of_lt (length_lineEnd? eq)

/-- A string of any form. -/
def string? : (cs : List Char) → Option (Cut (List Char) cs)
  | '"' :: '"' :: '"' :: rest =>
    (quotedLines? (skipLineEnd rest)).map fun cut =>
      cut.widen (by have := length_skipLineEnd rest; simp only [List.length_cons]; omega)
  | '"' :: rest => (quoted? rest).map fun cut => cut.widen (by simp)
  | '\'' :: '\'' :: '\'' :: rest =>
    (literalLines? (skipLineEnd rest)).map fun cut =>
      cut.widen (by have := length_skipLineEnd rest; simp only [List.length_cons]; omega)
  | '\'' :: rest => (literal? rest).map fun cut => cut.widen (by simp)
  | _ => none

/-- One part of a key. -/
def keyPart? : (cs : List Char) → Option (Cut String cs)
  | [] => none
  | '"' :: rest => (quoted? rest).map fun cut => (cut.map String.ofList).widen (by simp)
  | '\'' :: rest => (literal? rest).map fun cut => (cut.map String.ofList).widen (by simp)
  | c :: rest =>
    if isBareChar c then
      some ⟨String.ofList (c :: rest.takeWhile isBareChar), rest.dropWhile isBareChar,
        by have := length_dropWhile_le isBareChar rest; simp only [List.length_cons]; omega⟩
    else none

/-- A key: its parts, with dots between them and blanks around the dots. -/
def key? (cs : List Char) : Option (Cut (List String) cs) :=
  match keyPart? cs with
  | none => none
  | some part =>
    match eq : skipBlanks part.rest with
    | '.' :: more =>
      have shorter : (skipBlanks more).length < cs.length := by
        have h1 := part.shorter
        have h2 := length_dropWhile_le isInlineBlank part.rest
        have h3 := length_dropWhile_le isInlineBlank more
        simp only [skipBlanks] at eq ⊢
        rw [eq] at h2
        simp only [List.length_cons] at h2
        omega
      (key? (skipBlanks more)).map fun cut =>
        (cut.map (part.value :: ·)).widen (Nat.le_of_lt shorter)
    | rest =>
      some ⟨[part.value], rest, by
        have h1 := part.shorter
        have h2 := length_dropWhile_le isInlineBlank part.rest
        simp only [skipBlanks] at eq
        rw [eq] at h2
        omega⟩
termination_by cs.length

end SheetLint.Toml
