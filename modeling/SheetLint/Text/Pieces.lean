/-!
# Cutting texts

Cutting a text at every occurrence of a character, and finding a text inside
another. A text of `n` separators has `n + 1` pieces, some of them empty.
-/

namespace SheetLint.Text
set_option autoImplicit false

/-- The pieces between the separators. -/
def pieces (separator : Char) : List Char → List (List Char)
  | [] => [[]]
  | c :: rest =>
    if c = separator then [] :: pieces separator rest
    else match pieces separator rest with
      | [] => [[c]]
      | piece :: more => (c :: piece) :: more

/-- Whether `needle` stands somewhere in the text. -/
def containsB (needle : List Char) : List Char → Bool
  | [] => needle.isEmpty
  | c :: rest => needle.isPrefixOf (c :: rest) || containsB needle rest

theorem pieces_ne_nil (separator : Char) (cs : List Char) : pieces separator cs ≠ [] := by
  fun_cases pieces separator cs <;> simp

/-- Cutting at a character is splitting there. -/
theorem pieces_eq_splitOn (separator : Char) (cs : List Char) : pieces separator cs = cs.splitOn separator := by
  induction cs with
  | nil => rfl
  | cons c rest ih =>
    rw [List.splitOn_cons_eq_if_modifyHead, ← ih, pieces]
    by_cases here : c = separator
    · rw [if_pos here, if_pos (beq_iff_eq.2 here)]
    · rw [if_neg here, if_neg fun same => here (eq_of_beq same)]
      cases cut : pieces separator rest with
      | nil => exact absurd cut (pieces_ne_nil separator rest)
      | cons piece more => rfl

theorem pieces_append_cons {separator : Char} {first : List Char} (free : separator ∉ first) (rest : List Char) :
    pieces separator (first ++ separator :: rest) = first :: pieces separator rest := by
  rw [pieces_eq_splitOn, pieces_eq_splitOn, List.splitOn_append_cons_self_of_not_mem free]

theorem containsB_iff {needle cs : List Char} :
    containsB needle cs = true ↔ needle <:+: cs := by
  induction cs with
  | nil => simp [containsB]
  | cons c rest ih => simp [containsB, ih, List.infix_cons_iff]

end SheetLint.Text
