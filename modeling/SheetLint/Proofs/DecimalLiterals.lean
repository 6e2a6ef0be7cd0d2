import SheetLint.Proofs.DoubleRounding
import SheetLint.Proofs.TrimmedTexts
import SheetLint.Text.Number

/-!
# Decimal literals and their values

The grammar of decimal literals, `Decimal.Literal`, gives each its exact rational value: a sign,
digits with a point among or around them, and an exponent. `read?` accepts exactly the literals
and keeps their values (`read?_of_literal`, `literal_of_read?`). The range of doubles is decided on
mantissas and powers of ten of any size without computing the large ones; `finiteB_iff` and
`zeroB_iff` show that this decides the thresholds of double precision on the exact value.
-/

namespace SheetLint
set_option autoImplicit false

namespace Decimal

/-- There is nothing but digits. -/
def Digits (cs : List Char) : Prop := ∀ c ∈ cs, c.isDigit = true

instance (cs : List Char) : Decidable (Digits cs) := decidable_of_iff (cs.all Char.isDigit = true) List.all_eq_true

/-- The text is a sign or nothing; true for minus. -/
inductive Sign : List Char → Bool → Prop where
  | none : Sign [] false
  | plus : Sign ['+'] false
  | minus : Sign ['-'] true

/-- The text has these digits, so many of them behind the point. -/
inductive Mantissa : List Char → List Char → ℕ → Prop where
  | whole {ds : List Char} (digits : Digits ds) (some : ds ≠ []) : Mantissa ds ds 0
  | point {ds fs : List Char} (digits : Digits ds) (some : ds ≠ []) (fraction : Digits fs) :
    Mantissa (ds ++ '.' :: fs) (ds ++ fs) fs.length
  | fraction {fs : List Char} (digits : Digits fs) (some : fs ≠ []) : Mantissa ('.' :: fs) fs fs.length

/-- The text is an exponent or nothing. -/
inductive Exponent : List Char → ℤ → Prop where
  | none : Exponent [] 0
  | given {mark : Char} {sign ds : List Char} {minus : Bool} (marks : mark = 'e' ∨ mark = 'E')
    (signed : Sign sign minus) (digits : Digits ds) (some : ds ≠ []) :
    Exponent (mark :: sign ++ ds) (if minus then -(Nat.ofDigitChars 10 ds 0) else Nat.ofDigitChars 10 ds 0)

/-- The text is a literal with these digits in its mantissa, of the value. -/
inductive Literal : List Char → List Char → ℚ → Prop where
  | mk {sign mantissa digits exponent : List Char} {minus : Bool} {places : ℕ} {k : ℤ} (signed : Sign sign minus)
    (number : Mantissa mantissa digits places) (power : Exponent exponent k) :
    Literal (sign ++ mantissa ++ exponent) digits
      ((if minus then -1 else 1) * (Nat.ofDigitChars 10 digits 0 / 10 ^ places) * 10 ^ k)

/-- The number as a rational. -/
def value (d : Decimal) : ℚ := (if d.negative then -1 else 1) * d.mantissa * 10 ^ d.exponent

section Read

variable {cs ds rest : List Char}

theorem digitsValue_eq (ds : List Char) : digitsValue ds = Nat.ofDigitChars 10 ds 0 := rfl

theorem splitDigits_append (digits : Digits ds) (stops : ∀ c ∈ rest.head?, c.isDigit = false) :
    splitDigits (ds ++ rest) = (ds, rest) := by
  rw [splitDigits, List.takeWhile_append_of_pos digits, List.dropWhile_append_of_pos digits]
  cases rest with
  | nil => simp
  | cons c rest => simp [stops c rfl]

theorem splitDigits_none (stops : ∀ c ∈ rest.head?, c.isDigit = false) : splitDigits rest = ([], rest) :=
  @splitDigits_append [] rest (fun _ mem => absurd mem List.not_mem_nil) stops

theorem splitFraction_none (noPoint : ∀ c ∈ rest.head?, c ≠ '.') : splitFraction rest = ([], rest) := by
  unfold splitFraction
  split
  · exact absurd rfl (noPoint _ rfl)
  · rfl

theorem digits_splitDigits (cs : List Char) : Digits (splitDigits cs).1 :=
  fun _ mem => List.all_eq_true.1 List.all_takeWhile _ mem

theorem append_splitDigits (cs : List Char) : (splitDigits cs).1 ++ (splitDigits cs).2 = cs :=
  List.takeWhile_append_dropWhile

theorem splitSign_append {sign : List Char} {minus : Bool} (signed : Sign sign minus)
    (unsigned : ∀ c ∈ rest.head?, c ≠ '+' ∧ c ≠ '-') : splitSign (sign ++ rest) = (minus, rest) := by
  cases signed with
  | plus => rfl
  | minus => rfl
  | none =>
    rw [List.nil_append]
    unfold splitSign
    split
    · exact absurd rfl (unsigned _ rfl).1
    · exact absurd rfl (unsigned _ rfl).2
    · rfl

theorem sign_of_splitSign {minus : Bool} (cut : splitSign cs = (minus, rest)) :
    ∃ sign, Sign sign minus ∧ cs = sign ++ rest := by
  unfold splitSign at cut
  split at cut <;> cases cut
  · exact ⟨['+'], .plus, rfl⟩
  · exact ⟨['-'], .minus, rfl⟩
  · exact ⟨[], .none, rfl⟩

/-- A digit is no sign. -/
theorem unsigned_of_digits (digits : Digits ds) : ∀ c ∈ ds.head?, c ≠ '+' ∧ c ≠ '-' := by
  intro c first
  have digit := digits c (List.mem_of_head? first)
  constructor <;> rintro rfl <;> cases digit

theorem readExponent?_of_exponent {k : ℤ} (power : Exponent cs k) : readExponent? cs = some k := by
  cases power with
  | none => rfl
  | @given mark sign ds minus marks signed digits some =>
    have all : ds.all Char.isDigit = true := List.all_eq_true.2 digits
    rw [List.cons_append, readExponent?, if_pos marks, splitSign_append signed (unsigned_of_digits digits)]
    dsimp only
    rw [if_pos ⟨some, all⟩, digitsValue_eq]

theorem exponent_of_readExponent? {k : ℤ} (read : readExponent? cs = some k) : Exponent cs k := by
  cases cs with
  | nil =>
    cases read
    exact .none
  | cons mark rest =>
    cases cut : splitSign rest with
    | mk minus ds =>
      obtain ⟨sign, signed, rfl⟩ := sign_of_splitSign cut
      rw [readExponent?, cut] at read
      split at read
      · next marks =>
        dsimp only at read
        split at read
        · next digits =>
          cases read
          exact .given marks signed (List.all_eq_true.1 digits.2) digits.1
        · cases read
      · cases read

/-- An exponent goes on neither the digits nor the point before it. -/
theorem Exponent.stops {k : ℤ} (power : Exponent cs k) : ∀ c ∈ cs.head?, c.isDigit = false ∧ c ≠ '.' := by
  intro c first
  cases power with
  | none => cases first
  | given marks =>
    cases first
    rcases marks with rfl | rfl <;> decide

theorem Mantissa.unsigned {digits : List Char} {places : ℕ} (number : Mantissa cs digits places) :
    ∀ c ∈ (cs ++ rest).head?, c ≠ '+' ∧ c ≠ '-' := by
  intro c first
  cases number with
  | fraction =>
    cases first
    decide
  | whole digits some =>
    rw [List.head?_append_of_ne_nil _ some] at first
    exact unsigned_of_digits digits c first
  | point digits some =>
    rw [List.append_assoc, List.head?_append_of_ne_nil _ some] at first
    exact unsigned_of_digits digits c first

/-- The digits of a mantissa are split at its point. -/
theorem Mantissa.splits {digits : List Char} {places : ℕ} (number : Mantissa cs digits places)
    (stops : ∀ c ∈ rest.head?, c.isDigit = false ∧ c ≠ '.') :
    ∃ whole fraction after, splitDigits (cs ++ rest) = (whole, after) ∧ splitFraction after = (fraction, rest) ∧
      whole ++ fraction = digits ∧ fraction.length = places ∧ ¬ (whole = [] ∧ fraction = []) := by
  have ends : ∀ c ∈ rest.head?, c.isDigit = false := fun c first => (stops c first).1
  have dot (cs : List Char) : ∀ c ∈ ('.' :: cs).head?, c.isDigit = false := by
    intro c first
    cases first
    rfl
  cases number with
  | whole all some =>
    have noPoint := splitFraction_none fun c first => (stops c first).2
    exact ⟨_, [], rest, splitDigits_append all ends, noPoint, List.append_nil _, rfl, fun empty => some empty.1⟩
  | @point ds fs all some behind =>
    refine ⟨ds, fs, '.' :: (fs ++ rest), ?_, splitDigits_append behind ends, rfl, rfl, fun empty => some empty.1⟩
    rw [List.append_assoc]
    exact splitDigits_append all (dot _)
  | fraction all some =>
    exact ⟨[], digits, '.' :: (digits ++ rest), splitDigits_none (dot _), splitDigits_append all ends, rfl, rfl,
      fun empty => some empty.2⟩

theorem mantissa_of_splits {whole fraction after : List Char} (cut : splitDigits cs = (whole, after))
    (cut' : splitFraction after = (fraction, rest)) (some : ¬ (whole = [] ∧ fraction = [])) :
    ∃ mantissa, Mantissa mantissa (whole ++ fraction) fraction.length ∧ cs = mantissa ++ rest := by
  have digits := digits_splitDigits cs
  have joined := append_splitDigits cs
  rw [cut] at digits joined
  unfold splitFraction at cut'
  split at cut'
  · next behind =>
    have digits' := digits_splitDigits behind
    have joined' := append_splitDigits behind
    rw [cut'] at digits' joined'
    rw [← joined, ← joined']
    by_cases empty : whole = []
    · subst empty
      exact ⟨_, .fraction digits' fun none => some ⟨rfl, none⟩, rfl⟩
    · exact ⟨_, .point digits empty digits', by rw [List.append_assoc, List.cons_append]⟩
  · cases cut'
    rw [← joined, List.append_nil]
    exact ⟨_, .whole digits fun none => some ⟨none, rfl⟩, rfl⟩

end Read

section Value

theorem value_mk (minus : Bool) (mantissa places : ℕ) (k : ℤ) :
    value ⟨minus, mantissa, k - places⟩ = (if minus then -1 else 1) * (mantissa / 10 ^ places) * 10 ^ k := by
  have ten : (10 : ℚ) ≠ 0 := by norm_num
  rw [value, zpow_sub₀ ten, zpow_natCast]
  ring

variable {cs digits : List Char} {v : ℚ} {d : Decimal}

/-- Every literal is read, as a number of its value. -/
theorem read?_of_literal (literal : Literal cs digits v) : ∃ d, read? cs = some d ∧ d.value = v := by
  cases literal with
  | @mk sign mantissa digits exponent minus places k signed number power =>
    obtain ⟨whole, fraction, after, cut, cut', rfl, rfl, some⟩ := number.splits power.stops
    refine ⟨⟨minus, digitsValue (whole ++ fraction), k - fraction.length⟩, ?_, value_mk ..⟩
    rw [read?, List.append_assoc, splitSign_append signed number.unsigned]
    simp only [cut, cut', if_neg some, readExponent?_of_exponent power, Option.map_some]

/-- What is read is a literal. -/
theorem literal_of_read? (read : read? cs = some d) : ∃ digits, Literal cs digits d.value := by
  unfold read? at read
  cases cut : splitSign cs with
  | mk minus unsigned =>
    cases cut' : splitDigits unsigned with
    | mk whole after =>
      cases cut'' : splitFraction after with
      | mk fraction tail =>
        simp only [cut, cut', cut''] at read
        split at read
        · cases read
        · next some =>
          obtain ⟨k, power, rfl⟩ := Option.map_eq_some_iff.1 read
          obtain ⟨sign, signed, rfl⟩ := sign_of_splitSign cut
          obtain ⟨mantissa, number, rfl⟩ := mantissa_of_splits cut' cut'' some
          refine ⟨whole ++ fraction, ?_⟩
          rw [value_mk, ← List.append_assoc]
          exact .mk signed number (exponent_of_readExponent? power)

/-- A text that goes on with something else after its sign is no literal. -/
theorem read?_eq_none {sign rest : List Char} {minus : Bool} (signed : Sign sign minus)
    (other : ∀ c ∈ rest.head?, (c ≠ '+' ∧ c ≠ '-') ∧ c.isDigit = false ∧ c ≠ '.') : read? (sign ++ rest) = none := by
  have unsigned := splitSign_append signed fun c first => (other c first).1
  have noDigits := splitDigits_none fun c first => (other c first).2.1
  have noFraction := splitFraction_none fun c first => (other c first).2.2
  simp only [read?, unsigned, noDigits, noFraction, and_self, if_true]

theorem ofDigitChars_zeros {digits : List Char} (zeros : ∀ c ∈ digits, c = '0') : Nat.ofDigitChars 10 digits 0 = 0 := by
  induction digits with
  | nil => rfl
  | cons c digits ih =>
    rw [zeros c List.mem_cons_self, Nat.ofDigitChars_cons]
    exact ih fun d mem => zeros d (List.mem_cons_of_mem _ mem)

theorem Literal.eq_zero (literal : Literal cs digits v) (zeros : ∀ c ∈ digits, c = '0') : v = 0 := by
  cases literal with
  | mk => rw [ofDigitChars_zeros zeros, Nat.cast_zero, zero_div, mul_zero, zero_mul]

end Value

section Range

theorem abs_value (d : Decimal) : |d.value| = d.mantissa * 10 ^ d.exponent := by
  have sign : |(if d.negative then -1 else 1 : ℚ)| = 1 := by split <;> simp
  have power : (0 : ℚ) < 10 ^ d.exponent := zpow_pos (by norm_num) _
  rw [value, abs_mul, abs_mul, sign, one_mul, Nat.abs_cast, abs_of_pos power]

theorem cast_pow_sub {a b : ℕ} (le : b ≤ a) : ((Nat.pow 2 a - Nat.pow 2 b : ℕ) : ℚ) = 2 ^ a - 2 ^ b := by
  have less : Nat.pow 2 b ≤ Nat.pow 2 a := Nat.pow_le_pow_right (by decide) le
  rw [Nat.cast_sub less, Nat.pow_eq, Nat.pow_eq, Nat.cast_pow, Nat.cast_pow, Nat.cast_ofNat]

theorem cast_overflow : (overflow : ℚ) = 2 ^ 1024 - 2 ^ 970 := by
  have le : 970 ≤ 1024 := by decide
  rw [overflow, cast_pow_sub le]

theorem overflow_pos : 0 < overflow := by decide +kernel

theorem overflow_le : overflow ≤ 10 ^ 400 := by decide +kernel

/-- Bits in excess of those of a number make a larger power of ten. -/
theorem mul_two_pow_lt {n k e : ℕ} (bits : n.log2 + k < e) : n * 2 ^ k < 10 ^ (e + 1) :=
  calc n * 2 ^ k < 2 ^ (n.log2 + 1) * 2 ^ k := Nat.mul_lt_mul_of_pos_right Nat.lt_log2_self (Nat.two_pow_pos k)
    _ = 2 ^ (n.log2 + 1 + k) := (Nat.pow_add ..).symm
    _ ≤ 2 ^ (e + 1) := Nat.pow_le_pow_right (by decide) (by omega)
    _ ≤ 10 ^ (e + 1) := Nat.pow_le_pow_left (by decide) (e + 1)

theorem least_lt_one : (2 : ℚ) ^ (-1075 : ℤ) < 1 := by
  have less : (2 : ℚ) ^ (-1075 : ℤ) < 2 ^ (0 : ℤ) := zpow_lt_zpow_right₀ one_lt_two (by decide)
  rwa [zpow_zero] at less

variable (m e : ℕ)

theorem mul_zpow_ofNat : (m : ℚ) * 10 ^ Int.ofNat e = (m * 10 ^ e : ℕ) := by
  rw [Int.ofNat_eq_natCast, zpow_natCast, Nat.cast_mul, Nat.cast_pow, Nat.cast_ofNat]

theorem mul_zpow_negSucc : (m : ℚ) * 10 ^ Int.negSucc e = m / (10 ^ (e + 1) : ℕ) := by
  rw [zpow_negSucc, Nat.cast_pow, Nat.cast_ofNat, div_eq_mul_inv]

/-- The test on bits answers what the test on powers would. -/
theorem mul_two_pow_le_iff (k : ℕ) :
    (decide (m.log2 + k < e) || decide (m * Nat.pow 2 k ≤ Nat.pow 10 (e + 1))) = true ↔
      (m : ℚ) * 10 ^ Int.negSucc e ≤ 2 ^ (-k : ℤ) := by
  have ten : (0 : ℚ) < (10 ^ (e + 1) : ℕ) := Nat.cast_pos.2 (Nat.pow_pos (by decide))
  have two : (0 : ℚ) < (2 ^ k : ℕ) := Nat.cast_pos.2 (Nat.two_pow_pos k)
  have threshold : (2 : ℚ) ^ (-k : ℤ) = 1 / (2 ^ k : ℕ) := by
    rw [zpow_neg, zpow_natCast, one_div, Nat.cast_pow, Nat.cast_ofNat]
  have early : m.log2 + k < e → m * 2 ^ k ≤ 10 ^ (e + 1) := fun bits => (mul_two_pow_lt bits).le
  rw [mul_zpow_negSucc, threshold, div_le_div_iff₀ ten two, one_mul, ← Nat.cast_mul, Nat.cast_le,
    ← or_iff_right_of_imp early, Bool.or_eq_true, decide_eq_true_eq, decide_eq_true_eq]
  rfl

variable (d : Decimal)

/-- **The test for overflow is exact**, although it computes no power of ten beyond the range. -/
theorem finiteB_iff : d.finiteB = true ↔ |d.value| < 2 ^ 1024 - 2 ^ 970 := by
  rw [abs_value, ← cast_overflow]
  obtain ⟨minus, m, exponent⟩ := d
  by_cases zero : m = 0
  · subst zero
    rw [Nat.cast_zero, zero_mul]
    exact iff_of_true rfl (Nat.cast_pos.2 overflow_pos)
  · rw [finiteB, beq_eq_false_iff_ne.2 zero, Bool.false_or]
    cases exponent with
    | ofNat e =>
      have inRange : m * 10 ^ e < overflow → e ≤ 400 := by
        intro fits
        by_contra large
        have power : 10 ^ 400 ≤ 10 ^ e := pow_le_pow_right₀ (by decide) (by omega)
        have grows : 10 ^ e ≤ m * 10 ^ e := Nat.le_mul_of_pos_left _ (Nat.pos_of_ne_zero zero)
        exact absurd fits (Nat.not_lt.2 (overflow_le.trans (power.trans grows)))
      rw [mul_zpow_ofNat, Nat.cast_lt, ← and_iff_right_of_imp inRange, Bool.and_eq_true, decide_eq_true_eq,
        decide_eq_true_eq]
      rfl
    | negSucc e =>
      have positive : (0 : ℚ) < (10 ^ (e + 1) : ℕ) := Nat.cast_pos.2 (Nat.pow_pos (by decide))
      have early : m.log2 < e → m < overflow * 10 ^ (e + 1) := by
        intro bits
        have below := mul_two_pow_lt (k := 0) bits
        rw [Nat.pow_zero, Nat.mul_one] at below
        exact Nat.lt_of_lt_of_le below (Nat.le_mul_of_pos_left _ overflow_pos)
      rw [mul_zpow_negSucc, div_lt_iff₀ positive, ← Nat.cast_mul, Nat.cast_lt, ← or_iff_right_of_imp early,
        Bool.or_eq_true, decide_eq_true_eq, decide_eq_true_eq]
      rfl

/-- **The test for zero is exact.** -/
theorem zeroB_iff : d.zeroB = true ↔ |d.value| ≤ 2 ^ (-1075 : ℤ) := by
  rw [abs_value]
  obtain ⟨minus, m, exponent⟩ := d
  by_cases zero : m = 0
  · subst zero
    have least : (0 : ℚ) < 2 ^ (-1075 : ℤ) := zpow_pos two_pos _
    rw [Nat.cast_zero, zero_mul]
    exact iff_of_true rfl least.le
  · rw [zeroB, beq_eq_false_iff_ne.2 zero, Bool.false_or]
    cases exponent with
    | ofNat e =>
      have one : 1 ≤ m * 10 ^ e := Nat.mul_pos (Nat.pos_of_ne_zero zero) (Nat.pow_pos (by decide))
      rw [mul_zpow_ofNat]
      refine iff_of_false Bool.false_ne_true (not_le.2 (lt_of_lt_of_le least_lt_one ?_))
      exact_mod_cast one
    | negSucc e => exact mul_two_pow_le_iff m e 1075

end Range

end Decimal

namespace Text
open Decimal

section Numbers

variable {text body digits : List Char} {v : ℚ}

theorem exists_read?_trim (trims : Trims text body) (literal : Literal body digits v) :
    ∃ d, read? (trim text) = some d ∧ d.value = v := by
  rw [trim_eq_iff.2 trims]
  exact read?_of_literal literal

theorem isNumber_iff_of_literal (trims : Trims text body) (literal : Literal body digits v) :
    isNumber text = true ↔ |v| < 2 ^ 1024 - 2 ^ 970 := by
  obtain ⟨d, read, rfl⟩ := exists_read?_trim trims literal
  rw [isNumber, read, Option.any_some, finiteB_iff]

theorem isZero_iff_of_literal (trims : Trims text body) (literal : Literal body digits v) :
    isZero text = true ↔ |v| ≤ 2 ^ (-1075 : ℤ) := by
  have inRange : |v| ≤ 2 ^ (-1075 : ℤ) → |v| < 2 ^ 1024 - 2 ^ 970 := by
    intro small
    have some : (1 : ℚ) ≤ overflow := by exact_mod_cast overflow_pos
    rw [← cast_overflow]
    exact (small.trans_lt least_lt_one).trans_le some
  rw [isZero, Bool.and_eq_true, isNumber_iff_of_literal trims literal]
  obtain ⟨d, read, rfl⟩ := exists_read?_trim trims literal
  rw [read, Option.any_some, zeroB_iff, and_iff_right_of_imp inRange]

theorem exists_literal_of_isNumber (number : isNumber text = true) :
    ∃ body digits v, Trims text body ∧ Literal body digits v := by
  obtain ⟨d, read, -⟩ := (Option.any_eq_true _ _).1 number
  obtain ⟨digits, literal⟩ := literal_of_read? read
  exact ⟨_, digits, _, trims_trim text, literal⟩

theorem isNumber_of_isZero (zero : isZero text = true) : isNumber text = true :=
  (Bool.and_eq_true_iff.1 zero).1

theorem toLower_of_isDigit {c : Char} (digit : c.isDigit = true) : c.toLower = c := by
  have small : c.toNat ≤ '9'.toNat := (Char.isDigit_iff_toNat.1 digit).2
  unfold Char.toLower
  rw [dif_neg]
  intro upper
  have large : 'A'.toNat ≤ c.toNat := upper.1
  exact absurd (large.trans small) (by decide)

/-- The letters that the words for infinities and for no number start with. -/
theorem not_numeral_of_toLower {c : Char} (letter : c.toLower = 'i' ∨ c.toLower = 'n') :
    (c ≠ '+' ∧ c ≠ '-') ∧ c.isDigit = false ∧ c ≠ '.' := by
  have other (a : Char) (neither : ¬ (a.toLower = 'i' ∨ a.toLower = 'n')) : c ≠ a := by
    intro same
    subst same
    exact neither letter
  refine ⟨⟨other '+' (by decide), other '-' (by decide)⟩, ?_, other '.' (by decide)⟩
  cases digit : c.isDigit with
  | false => rfl
  | true =>
    rw [toLower_of_isDigit digit] at letter
    rcases letter with rfl | rfl <;> cases digit

/-- The words, in small letters, for what is no decimal number. -/
def specialWords : List String := ["inf", "infinity", "nan"]

theorem head_special : ∀ word ∈ specialWords, word.toList.head? = some 'i' ∨ word.toList.head? = some 'n' := by
  decide

theorem isNumber_special {sign spelling : List Char} {minus : Bool} {word : String} (signed : Sign sign minus)
    (special : word ∈ specialWords) (spells : spelling.map Char.toLower = word.toList)
    (trims : Trims text (sign ++ spelling)) : isNumber text = false := by
  have starts := head_special word special
  rw [← spells, List.head?_map] at starts
  have none : read? (sign ++ spelling) = none := by
    apply read?_eq_none signed
    intro c first
    rw [Option.mem_def.1 first, Option.map_some] at starts
    exact not_numeral_of_toLower (starts.imp Option.some.inj Option.some.inj)
  rw [isNumber, trim_eq_iff.2 trims, none, Option.any_none]

end Numbers

/-- A text is a number where it is, blanks around it apart, a decimal literal whose exact value is
within the range of doubles, and zero where the value is so small that it rounds to zero. -/
theorem isNumber_isZero_by_exact_value (text : List Char) :
    (isNumber text = true ↔
      ∃ body digits v, Trims text body ∧ Literal body digits v ∧ |v| < 2 ^ 1024 - 2 ^ 970) ∧
    (isZero text = true ↔
      ∃ body digits v, Trims text body ∧ Literal body digits v ∧ |v| ≤ 2 ^ (-1075 : ℤ)) ∧
    (∀ body digits v, Trims text body → Literal body digits v →
      (isNumber text = true ↔ Double.nearest |v| < 2 ^ 1024) ∧ (isZero text = true ↔ Double.nearest |v| = 0)) ∧
    (∀ body digits v, Trims text body → Literal body digits v → (∀ c ∈ digits, c = '0') →
      isNumber text = true ∧ isZero text = true) ∧
    (∀ sign minus word spelling, Sign sign minus → word ∈ specialWords →
      spelling.map Char.toLower = word.toList → Trims text (sign ++ spelling) → isNumber text = false) ∧
    (isZero text = true → isNumber text = true) := by
  refine ⟨⟨?_, ?_⟩, ⟨?_, ?_⟩, ?_, ?_, ?_, isNumber_of_isZero⟩
  · intro number
    obtain ⟨body, digits, v, trims, literal⟩ := exists_literal_of_isNumber number
    exact ⟨body, digits, v, trims, literal, (isNumber_iff_of_literal trims literal).1 number⟩
  · intro ⟨body, digits, v, trims, literal, inRange⟩
    exact (isNumber_iff_of_literal trims literal).2 inRange
  · intro zero
    obtain ⟨body, digits, v, trims, literal⟩ := exists_literal_of_isNumber (isNumber_of_isZero zero)
    exact ⟨body, digits, v, trims, literal, (isZero_iff_of_literal trims literal).1 zero⟩
  · intro ⟨body, digits, v, trims, literal, small⟩
    exact (isZero_iff_of_literal trims literal).2 small
  · intro body digits v trims literal
    rw [Double.nearest_lt_iff (abs_nonneg v), Double.nearest_eq_zero_iff (abs_nonneg v)]
    exact ⟨isNumber_iff_of_literal trims literal, isZero_iff_of_literal trims literal⟩
  · intro body digits v trims literal zeros
    have zero : isZero text = true := by
      rw [isZero_iff_of_literal trims literal, literal.eq_zero zeros, abs_zero]
      exact (zpow_pos two_pos _).le
    exact ⟨isNumber_of_isZero zero, zero⟩
  · intro sign minus word spelling signed special spells trims
    exact isNumber_special signed special spells trims

/-- Zeros with a sign, a point and a large exponent. -/
theorem literal_zeros : ∃ v, Literal "-00.0e+99999".toList ['0', '0', '0'] v :=
  ⟨_, .mk .minus (@Mantissa.point ['0', '0'] ['0'] (by decide) (by decide) (by decide))
    (@Exponent.given 'e' ['+'] ['9', '9', '9', '9', '9'] false (.inl rfl) .plus (by decide) (by decide))⟩

/-- One over a power of ten beyond the range of doubles. -/
theorem literal_tiny : ∃ v, v ≠ 0 ∧ Literal "1e-400".toList ['1'] v := by
  have literal := Literal.mk .none (@Mantissa.whole ['1'] (by decide) (by decide))
    (@Exponent.given 'e' ['-'] ['4', '0', '0'] true (.inl rfl) .minus (by decide) (by decide))
  refine ⟨_, ?_, literal⟩
  apply mul_ne_zero
  · have one : Nat.ofDigitChars 10 ['1'] 0 = 1 := rfl
    rw [one]
    norm_num
  · exact zpow_ne_zero _ (by norm_num)

theorem isNumber_isZero_by_exact_value_sample :
    (isNumber " -00.0e+99999\n".toList = true ∧ isZero " -00.0e+99999\n".toList = true) ∧
    isNumber " +iNFinity".toList = false ∧
    ∃ v, Literal "1e-400".toList ['1'] v ∧ v ≠ 0 ∧ Double.nearest |v| = 0 := by
  refine ⟨?_, ?_, ?_⟩
  · obtain ⟨v, literal⟩ := literal_zeros
    obtain ⟨-, -, -, zeros, -⟩ := isNumber_isZero_by_exact_value " -00.0e+99999\n".toList
    exact zeros _ _ v (trim_eq_iff.1 rfl) literal fun _ mem => @List.eq_of_mem_replicate _ _ _ 3 mem
  · obtain ⟨-, -, -, -, special, -⟩ := isNumber_isZero_by_exact_value " +iNFinity".toList
    exact special _ _ "infinity" "iNFinity".toList .plus (by decide) rfl (trim_eq_iff.1 rfl)
  · obtain ⟨v, nonzero, literal⟩ := literal_tiny
    obtain ⟨-, -, rounds, -, -, -⟩ := isNumber_isZero_by_exact_value "1e-400".toList
    have zero : isZero "1e-400".toList = true := by decide +kernel
    exact ⟨v, literal, nonzero, (rounds _ _ v (trim_eq_iff.1 rfl) literal).2.1 zero⟩

end Text
end SheetLint
