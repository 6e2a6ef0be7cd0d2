import SheetLint.Json.Token
import SheetLint.Json.Writer

/-!
# Numerals in a text

A numeral is cut off a text as a whole: all its characters can stand in a numeral, and what
follows it cannot (`scanWord?_numeral`). The digits of a natural number are a numeral that
reads as the number, and up to 64 bits the number is within the range of doubles.
-/

namespace SheetLint.Json
set_option autoImplicit false

namespace Numeral

/-- The text does not go on with a character of numerals. -/
def Ends (rest : List Char) : Prop := ∀ c cs, rest = c :: cs → isNumeralChar c = false

theorem isNumeralChar_of_isDigit {c : Char} (digit : c.isDigit = true) : isNumeralChar c = true := by
  simp [isNumeralChar, digit]

section Characters

variable {cs : List Char}

theorem chars_of_splitDigits (rest : ∀ c ∈ (Decimal.splitDigits cs).2, isNumeralChar c = true) :
    ∀ c ∈ cs, isNumeralChar c = true := by
  intro c mem
  rw [← List.takeWhile_append_dropWhile (p := Char.isDigit) (l := cs)] at mem
  rcases List.mem_append.1 mem with mem | mem
  · exact isNumeralChar_of_isDigit (List.all_eq_true.1 List.all_takeWhile c mem)
  · exact rest c mem

theorem chars_of_splitSign (digits : ∀ c ∈ (Decimal.splitSign cs).2, isNumeralChar c = true) :
    ∀ c ∈ cs, isNumeralChar c = true := by
  unfold Decimal.splitSign at digits
  split at digits
  · exact List.forall_mem_cons.2 ⟨rfl, digits⟩
  · exact List.forall_mem_cons.2 ⟨rfl, digits⟩
  · exact digits

theorem chars_of_exponentB (exponent : exponentB cs = true) : ∀ c ∈ cs, isNumeralChar c = true := by
  cases cs with
  | nil => exact nofun
  | cons mark rest =>
    simp only [exponentB, Bool.and_eq_true, Bool.or_eq_true, beq_iff_eq, List.all_eq_true] at exponent
    obtain ⟨marked, -, digits⟩ := exponent
    refine List.forall_mem_cons.2 ⟨?_, chars_of_splitSign fun c mem => isNumeralChar_of_isDigit (digits c mem)⟩
    rcases marked with rfl | rfl <;> rfl

theorem chars_of_tailB (tail : tailB cs = true) : ∀ c ∈ cs, isNumeralChar c = true := by
  unfold tailB at tail
  split at tail
  · rw [Bool.and_eq_true] at tail
    exact List.forall_mem_cons.2 ⟨rfl, chars_of_splitDigits (chars_of_exponentB tail.2)⟩
  · exact chars_of_exponentB tail

/-- All characters of a numeral can stand in numerals. -/
theorem chars_of_numeralB (numeral : numeralB cs = true) : ∀ c ∈ cs, isNumeralChar c = true := by
  unfold numeralB at numeral
  rw [Bool.and_eq_true] at numeral
  have unsigned := chars_of_splitDigits (chars_of_tailB numeral.2)
  split at unsigned
  · exact List.forall_mem_cons.2 ⟨rfl, unsigned⟩
  · exact unsigned

/-- A numeral starts with a minus or a digit. -/
theorem head_of_numeralB {c : Char} (numeral : numeralB (c :: cs) = true) : c = '-' ∨ c.isDigit = true := by
  by_cases minus : c = '-'
  · exact Or.inl minus
  · right
    have whole : wholeB (Decimal.splitDigits (c :: cs)).1 = true := by
      simp only [numeralB, Bool.and_eq_true] at numeral
      split at numeral
      · next same => exact absurd (List.cons.inj same).1 minus
      · exact numeral.1
    apply Decidable.byContradiction
    intro other
    rw [Decimal.splitDigits, List.takeWhile_cons_of_neg other] at whole
    cases whole

theorem ne_nil_of_numeralB (numeral : numeralB cs = true) : cs ≠ [] := by
  rintro rfl
  cases numeral

end Characters

/-- A numeral is taken off a text where it ends. -/
theorem scanWord?_numeral {c : Char} {cs rest : List Char} (numeral : numeralB (c :: cs) = true) (ends : Ends rest) :
    Token.scanWord? c (cs ++ rest) = some (.number (c :: cs), rest) := by
  have here := head_of_numeralB numeral
  have all : ∀ d ∈ cs, isNumeralChar d = true := fun d mem => chars_of_numeralB numeral d (List.mem_cons_of_mem c mem)
  have taken : (cs ++ rest).takeWhile isNumeralChar = cs ∧ (cs ++ rest).dropWhile isNumeralChar = rest := by
    rw [List.takeWhile_append_of_pos all, List.dropWhile_append_of_pos all]
    cases rest with
    | nil => simp
    | cons d rest => simp [ends d rest rfl]
  unfold Token.scanWord?
  split
  case h_4 => simp only [taken, numeral, if_true]
  all_goals exact absurd here (by decide)

theorem next?_numeral {c : Char} {cs rest : List Char} (numeral : numeralB (c :: cs) = true) (ends : Ends rest) :
    Token.next? c (cs ++ rest) = some (.number (c :: cs), rest) := by
  have here := head_of_numeralB numeral
  unfold Token.next?
  split
  case h_8 => exact scanWord?_numeral numeral ends
  all_goals exact absurd here (by decide)

theorem isSpace_of_numeralB {c : Char} {cs : List Char} (numeral : numeralB (c :: cs) = true) :
    Token.isSpace c = false := by
  rw [← Bool.not_eq_true]
  intro space
  simp only [Token.isSpace, Bool.or_eq_true, beq_iff_eq] at space
  have here := head_of_numeralB numeral
  rcases space with ((rfl | rfl) | rfl) | rfl <;> exact absurd here (by decide)

section Naturals

variable (n : Nat)

theorem toDigits_isDigit : ∀ c ∈ Nat.toDigits 10 n, c.isDigit = true :=
  fun _ mem => Nat.isDigit_of_mem_toDigits (by decide) (by decide) mem

/-- Only the digits of zero start with a zero. -/
theorem zero_of_toDigits_head {n : Nat} {cs : List Char} (head : Nat.toDigits 10 n = '0' :: cs) : n = 0 := by
  induction n using Nat.strongRecOn generalizing cs with
  | ind n ih =>
    by_cases small : n < 10
    · rw [Nat.toDigits_of_lt_base small] at head
      exact Nat.digitChar_eq_zero.1 (List.cons.inj head).1
    · rw [Nat.toDigits_of_base_le (by decide) (by omega)] at head
      obtain ⟨d, ds, front⟩ := List.exists_cons_of_ne_nil (Nat.toDigits_ne_nil (n := n / 10) (b := 10))
      rw [front, List.cons_append] at head
      obtain rfl := (List.cons.inj head).1
      have := ih (n / 10) (by omega) front
      omega

theorem splitDigits_toDigits : Decimal.splitDigits (Nat.toDigits 10 n) = (Nat.toDigits 10 n, []) := by
  have digits := toDigits_isDigit n
  have whole := @List.takeWhile_append_of_pos _ _ _ [] digits
  have none := @List.dropWhile_append_of_pos _ _ _ [] digits
  rw [List.append_nil] at whole none
  rw [Decimal.splitDigits, whole, none, List.takeWhile_nil, List.append_nil, List.dropWhile_nil]

theorem wholeB_toDigits : wholeB (Nat.toDigits 10 n) = true := by
  unfold wholeB
  split
  · next none => exact absurd none Nat.toDigits_ne_nil
  · rfl
  · next d ds notZero digits =>
    rw [bne_iff_ne]
    rintro rfl
    rw [zero_of_toDigits_head digits] at digits
    exact notZero rfl (List.cons.inj digits).2.symm

/-- The digits of a natural number have no sign. -/
theorem toDigits_ne_sign {sign : Char} {cs : List Char} (notDigit : sign.isDigit = false) :
    Nat.toDigits 10 n ≠ sign :: cs := by
  intro same
  have digit := toDigits_isDigit n sign (same ▸ List.mem_cons_self)
  rw [notDigit] at digit
  cases digit

theorem numeralB_toDigits : numeralB (Nat.toDigits 10 n) = true := by
  unfold numeralB
  split
  · next rest same => exact absurd same (toDigits_ne_sign n rfl)
  · show (wholeB (Decimal.splitDigits (Nat.toDigits 10 n)).1 && tailB (Decimal.splitDigits (Nat.toDigits 10 n)).2) = true
    rw [splitDigits_toDigits, wholeB_toDigits]
    rfl

theorem toNat?_toDigits : toNat? (Nat.toDigits 10 n) = some n := by
  have digits : (Nat.toDigits 10 n).all Char.isDigit = true := List.all_eq_true.2 (toDigits_isDigit n)
  rw [toNat?, if_pos ⟨Nat.toDigits_ne_nil, digits⟩]
  exact congrArg some Nat.ofDigitChars_ten_toDigits

end Naturals

section Range

/-- More digits never make the value smaller. -/
theorem le_foldl_digits (s : Nat) (ds : List Char) :
    s ≤ ds.foldl (fun n d => 10 * n + (d.toNat - '0'.toNat)) s := by
  induction ds generalizing s with
  | nil => exact Nat.le_refl s
  | cons d ds ih =>
    have := ih (10 * s + (d.toNat - '0'.toNat))
    rw [List.foldl_cons]
    omega

/-- Where the value fits into 64 bits all digits are taken. -/
theorem takeDigits_of_lt {s : Nat} {ds : List Char}
    (fits : ds.foldl (fun n d => 10 * n + (d.toNat - '0'.toNat)) s < Nat.pow 2 64) :
    takeDigits s ds = (ds.foldl (fun n d => 10 * n + (d.toNat - '0'.toNat)) s, []) := by
  induction ds generalizing s with
  | nil => rfl
  | cons d ds ih =>
    have value : 10 * s + Decimal.digitsValue [d] = 10 * s + (d.toNat - '0'.toNat) := by
      simp [Decimal.digitsValue]
    have grows := le_foldl_digits (10 * s + (d.toNat - '0'.toNat)) ds
    rw [List.foldl_cons] at fits ⊢
    simp only [takeDigits, value]
    rw [if_pos (Nat.lt_of_le_of_lt grows fits)]
    exact ih fits

theorem held_toDigits {n : Nat} (fits : n < Nat.pow 2 64) : held (Nat.toDigits 10 n) = ⟨false, n, 0⟩ := by
  have sign : Decimal.splitSign (Nat.toDigits 10 n) = (false, Nat.toDigits 10 n) := by
    unfold Decimal.splitSign
    split
    · next same => exact absurd same (toDigits_ne_sign n rfl)
    · next same => exact absurd same (toDigits_ne_sign n rfl)
    · rfl
  have value : (Nat.toDigits 10 n).foldl (fun n d => 10 * n + (d.toNat - '0'.toNat)) 0 = n :=
    Nat.ofDigitChars_ten_toDigits
  have taken : takeDigits 0 (Nat.toDigits 10 n) = (n, []) := by
    rw [takeDigits_of_lt (value.symm ▸ fits), value]
  simp only [held, sign, splitDigits_toDigits, Decimal.splitFraction, taken, takeDigits]
  rfl

/-- Rounding at most doubles a number. -/
theorem toPrecision_le {n : Nat} (positive : n ≠ 0) : Decimal.toPrecision n ≤ 2 * n := by
  have unit : Nat.pow 2 (n.log2 - 52) ≤ n :=
    Nat.le_trans (Nat.pow_le_pow_right (by decide) (Nat.sub_le ..)) (Nat.log2_self_le positive)
  have below : n / Nat.pow 2 (n.log2 - 52) * Nat.pow 2 (n.log2 - 52) ≤ n := Nat.div_mul_le_self ..
  dsimp only [Decimal.toPrecision]
  split
  · rw [Nat.add_mul, Nat.one_mul]
    omega
  · omega

/-- Numbers of 64 bits are within the range of doubles. -/
theorem finiteB_toDigits {n : Nat} (fits : n < Nat.pow 2 64) : finiteB (Nat.toDigits 10 n) = true := by
  simp only [finiteB, held_toDigits fits]
  by_cases zero : n = 0
  · simp [zero]
  · have size := toPrecision_le zero
    have one := toPrecision_le (n := Nat.pow 10 0) (by decide)
    have product : Decimal.toPrecision n * Decimal.toPrecision (Nat.pow 10 0) ≤ 2 * n * (2 * Nat.pow 10 0) :=
      Nat.mul_le_mul size one
    have room : 4 * Nat.pow 2 64 ≤ Decimal.overflow := by decide +kernel
    have less : 2 * n * (2 * Nat.pow 10 0) = 4 * n := by
      show 2 * n * 2 = 4 * n
      omega
    rw [Bool.or_eq_true]
    right
    show (decide (0 ≤ maxExponent) && decide (_ < _)) = true
    rw [Bool.and_eq_true, decide_eq_true_eq, decide_eq_true_eq]
    exact ⟨Nat.zero_le _, by omega⟩

end Range
end Numeral
end SheetLint.Json
