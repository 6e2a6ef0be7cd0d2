import SheetLint.Shape

/-!
# Ledgers

A ledger collects things in the order they come and takes each shape once: a
thing whose shape is there already is left out.
-/

namespace SheetLint
set_option autoImplicit false

/-- Things collected, in the order they came. -/
structure Ledger (α : Type) where
  entries : List α
deriving Repr, Inhabited

namespace Ledger

variable {α β : Type} [Shaped α] [Shaped β]

/-- The ledger with nothing in it. -/
def empty : Ledger α := ⟨[]⟩

/-- Whether no entry has the shape of `x`. -/
def isNewB (ledger : Ledger α) (x : β) : Bool :=
  !ledger.entries.any fun e => sameShapeB e x

/-- The ledger with `x` at its end, unless its shape is there already. -/
def add (ledger : Ledger α) (x : α) : Ledger α :=
  if ledger.isNewB x then ⟨ledger.entries ++ [x]⟩ else ledger

/-- The ledger after several things, one after the other. -/
def addAll (ledger : Ledger α) (xs : List α) : Ledger α :=
  xs.foldl add ledger

theorem isNewB_iff {ledger : Ledger α} {x : β} :
    ledger.isNewB x = true ↔ ∀ e ∈ ledger.entries, shape e ≠ shape x := by
  simp [isNewB, sameShapeB]

end Ledger
end SheetLint
