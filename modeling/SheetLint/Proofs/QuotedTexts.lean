import SheetLint.Json.Token

/-!
# Ways to write a quoted text

A text has many spellings between quotes: each character as itself, where it may stand so,
by a one-letter escape, or by the number of its 16-bit unit or units. `Spells` says which.
Every spelling is cut off a text at its closing quote (`scanBody?_of_spells`) and reads as
the text it spells (`decode?_of_spells`); what `encode` writes is one of them.
-/

namespace SheetLint.Json.Quoted
set_option autoImplicit false

/-- The body spells the text. -/
inductive Spells : List Char → List Char → Prop where
  | nil : Spells [] []
  | plain {c : Char} {body text : List Char} (printable : 0x20 ≤ c.toNat) (notQuote : c ≠ '"') (notEscape : c ≠ '\\')
    (rest : Spells body text) : Spells (c :: body) (c :: text)
  | short {e c : Char} {body text : List Char} (stands : escaped? e = some c) (rest : Spells body text) :
    Spells ('\\' :: e :: body) (c :: text)
  | unit {a b c d : Char} {u : Nat} {body text : List Char} (digits : hexRun? [a, b, c, d] = some u)
    (notLead : leadsB u = false) (notTrail : trailsB u = false) (rest : Spells body text) :
    Spells ('\\' :: 'u' :: a :: b :: c :: d :: body) (Char.ofNat u :: text)
  | pair {a b c d a' b' c' d' : Char} {u v : Nat} {body text : List Char} (digits : hexRun? [a, b, c, d] = some u)
    (lead : leadsB u = true) (digits' : hexRun? [a', b', c', d'] = some v) (trail : trailsB v = true)
    (rest : Spells body text) :
    Spells ('\\' :: 'u' :: a :: b :: c :: d :: '\\' :: 'u' :: a' :: b' :: c' :: d' :: body) (paired u v :: text)

/-- The letter that announces a number is no one-letter escape. -/
theorem ne_u_of_escaped? {e c : Char} (stands : escaped? e = some c) : e ≠ 'u' := by
  rintro rfl
  cases stands

theorem not_trails_of_leads {u : Nat} (lead : leadsB u = true) : trailsB u = false := by
  simp only [leadsB, trailsB, Bool.and_eq_true, decide_eq_true_eq, Bool.and_eq_false_iff, decide_eq_false_iff_not] at *
  omega

section Spells

variable {body text : List Char}

theorem decode?_of_spells (spells : Spells body text) : decode? body = some text := by
  induction spells with
  | nil => rfl
  | plain _ _ notEscape _ ih => simp [decode?, notEscape, ih]
  | short stands _ ih => simp [decode?, ne_u_of_escaped? stands, stands, ih]
  | unit digits notLead notTrail _ ih => simp [decode?, digits, notLead, notTrail, ih]
  | pair digits lead digits' trail _ ih => simp [decode?, digits, lead, not_trails_of_leads lead, digits', trail, ih]

theorem scanBody?_of_spells (spells : Spells body text) (rest : List Char) :
    Token.scanBody? (body ++ '"' :: rest) = some (body, rest) := by
  induction spells with
  | nil => simp [Token.scanBody?]
  | plain printable notQuote notEscape _ ih => simp [Token.scanBody?, notEscape, Nat.not_lt.2 printable, ih]
  | short stands _ ih => simp [Token.scanBody?, ne_u_of_escaped? stands, stands, ih]
  | unit digits _ _ _ ih => simp [Token.scanBody?, digits, ih]
  | pair digits _ digits' _ _ ih => simp [Token.scanBody?, digits, digits', ih]

end Spells

/-- Control characters have numbers of two hexadecimal digits. -/
theorem hexRun?_control : ∀ n < 0x20, hexRun? ['0', '0', hexDigit (n / 16), hexDigit (n % 16)] = some n := by
  decide +kernel

theorem spells_encodeChar {body text : List Char} (c : Char) (rest : Spells body text) :
    Spells (encodeChar c ++ body) (c :: text) := by
  unfold encodeChar
  split
  case h_8 notQuote notEscape _ _ _ _ _ =>
    split
    · next control =>
      have digits := hexRun?_control c.toNat control
      have small : leadsB c.toNat = false ∧ trailsB c.toNat = false := by
        simp only [leadsB, trailsB, Bool.and_eq_false_iff, decide_eq_false_iff_not]
        omega
      have spelled := Spells.unit digits small.1 small.2 rest
      rw [Char.ofNat_toNat] at spelled
      exact spelled
    · next printable => exact Spells.plain (Nat.not_lt.1 printable) notQuote notEscape rest
  all_goals exact Spells.short rfl rest

/-- What is written spells the text. -/
theorem spells_encode (cs : List Char) : Spells (encode cs) cs := by
  induction cs with
  | nil => exact Spells.nil
  | cons c cs ih => exact spells_encodeChar c ih

end SheetLint.Json.Quoted
