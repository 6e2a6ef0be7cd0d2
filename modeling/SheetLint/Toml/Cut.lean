/-!
# Cutting off the front of a text

A reader takes a value off the front of a text and leaves a rest that is
shorter, which is what ends every loop over a text.
-/

namespace SheetLint.Toml
set_option autoImplicit false

/-- A value taken off the front of `cs`, and the rest. -/
structure Cut (α : Type) (cs : List Char) where
  value : α
  rest : List Char
  shorter : rest.length < cs.length

namespace Cut

variable {α β : Type} {cs ds : List Char}

/-- The cut with another value. -/
def map (f : α → β) (cut : Cut α cs) : Cut β cs :=
  ⟨f cut.value, cut.rest, cut.shorter⟩

/-- The cut seen from a longer text that ends in the same. -/
def widen (cut : Cut α cs) (longer : cs.length ≤ ds.length) : Cut α ds :=
  ⟨cut.value, cut.rest, Nat.lt_of_lt_of_le cut.shorter longer⟩

/-- The cut that leaves less. -/
def dropRest (cut : Cut α cs) (rest : List Char) (less : rest.length ≤ cut.rest.length) : Cut α cs :=
  ⟨cut.value, rest, Nat.lt_of_le_of_lt less cut.shorter⟩

end Cut

theorem length_dropWhile_le (p : Char → Bool) (cs : List Char) :
    (cs.dropWhile p).length ≤ cs.length :=
  (List.dropWhile_suffix p).length_le

end SheetLint.Toml
