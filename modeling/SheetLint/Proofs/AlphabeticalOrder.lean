import SheetLint.Proofs.RelativeOrder
import SheetLint.Proofs.Utf8Order

/-!
# The alphabetical order as a list

Ranking properties by name and ranking them by their place in a list are two ways to the same
report, as long as the list is sorted and has the names in use, and these carry no vendor mark. The
list is sorted by the bytes of its names in UTF-8, while names are compared by their characters,
which is the same order.
-/

namespace SheetLint
set_option autoImplicit false

namespace Order

/-- The names stand in the order of their bytes. A name may stand in the list more than once. -/
def SortedByBytes (l : List String) : Prop := l.Pairwise fun a b => Text.utf8 a ≤ Text.utf8 b

instance (l : List String) : Decidable (SortedByBytes l) := inferInstanceAs (Decidable (l.Pairwise _))

theorem SortedByBytes.idxOf_lt_iff {l : List String} (sorted : SortedByBytes l) {a b : String} (left : a ∈ l)
    (right : b ∈ l) : l.idxOf a < l.idxOf b ↔ a < b := by
  have ascending {a b : String} (left : a ∈ l) (right : b ∈ l) (places : l.idxOf a < l.idxOf b) : ¬ b < a := by
    have below := List.pairwise_iff_getElem.1 sorted _ _ (List.idxOf_lt_length_iff.2 left)
      (List.idxOf_lt_length_iff.2 right) places
    rw [List.getElem_idxOf, List.getElem_idxOf] at below
    exact fun above => List.not_lt.2 below (Text.utf8_lt_iff.2 above)
  constructor
  · intro places
    refine String.not_le.1 fun back => ?_
    have equal : a = b := String.le_antisymm (String.not_lt.1 (ascending left right places)) back
    rw [equal] at places
    exact Nat.lt_irrefl _ places
  · intro less
    refine Nat.lt_of_not_le fun back => ?_
    rcases Nat.lt_or_eq_of_le back with places | same
    · exact ascending right left places less
    · have equal : b = a := (List.idxOf_inj right).1 same
      rw [equal] at less
      exact String.lt_irrefl a less

/-- A sorted list orders the names in it that carry no vendor mark as the alphabet does. -/
theorem SortedByBytes.alike {l : List String} (sorted : SortedByBytes l) :
    Policy.Alike (fun p => canonical p = p ∧ p ∈ l) .alphabetical (.ofNames l) where
  ranked p := by
    rintro ⟨plain, listed⟩
    have ranks : (Policy.ofNames l).rank? p = some (.index (l.idxOf (canonical p))) :=
      Policy.rank?_ofNames_eq_some_iff.2 ⟨by rwa [plain], rfl⟩
    rw [ranks]
    rfl
  ordered p q := by
    rintro ⟨plain, listed⟩ ⟨plain', listed'⟩ r t r' t' at_p at_q at_p' at_q'
    obtain ⟨-, rfl⟩ := Policy.rank?_ofNames_eq_some_iff.1 at_p'
    obtain ⟨-, rfl⟩ := Policy.rank?_ofNames_eq_some_iff.1 at_q'
    cases at_p
    cases at_q
    rw [Bool.eq_iff_iff, Rank.ltB_name_iff, Rank.ltB_index_iff, plain, plain', sorted.idxOf_lt_iff listed listed']

end Order

namespace Rule.DeclarationOrder

/-- **The alphabetical order and a sorted list agree.** Let no declaration in a block of a tree set a property with a
vendor mark. A list that is sorted by bytes and has all these properties, with any others and with repeats, leaves
with the rule what the alphabetical order leaves, whatever the ledger held before. -/
theorem alphabetical_agrees_with_sorted_list (tree : Node) {l : List String} (sorted : Order.SortedByBytes l)
    (plain : ∀ block ∈ tree.descendants, block.kind = "block" → ∀ p ∈ namesIn block, Order.canonical p = p)
    (listed : ∀ block ∈ tree.descendants, block.kind = "block" → ∀ p ∈ namesIn block, p ∈ l)
    (severity : Severity) (context : FileContext) (ledger : Ledger Detection) :
    ((rule .alphabetical).withSeverity severity).detect context tree ledger =
      ((rule (.ofNames l)).withSeverity severity).detect context tree ledger := by
  refine detect_of_alike sorted.alike (fun block inside isBlock p written => ?_) severity context ledger
  exact ⟨plain block inside isBlock p written, listed block inside isBlock p written⟩

/-- A letter of two bytes comes after all of one byte, and the list has a name twice and one that is not in use. -/
theorem alphabetical_agrees_with_sorted_list_sample :
    Order.SortedByBytes ["color", "width", "width", "z-index", "überlauf"] ∧
    ((rule .alphabetical).withSeverity .error).detect default
        (sampleBlock ["überlauf", "z-index", "width", "z-index"]) .empty =
      ((rule (.ofNames ["color", "width", "width", "z-index", "überlauf"])).withSeverity .error).detect default
        (sampleBlock ["überlauf", "z-index", "width", "z-index"]) .empty := by
  have sorted : Order.SortedByBytes ["color", "width", "width", "z-index", "überlauf"] := by decide +kernel
  refine ⟨sorted, alphabetical_agrees_with_sorted_list _ sorted ?_ ?_ .error default .empty⟩
  · rw [Node.descendants_eq_preorder]
    decide +kernel
  · rw [Node.descendants_eq_preorder]
    decide +kernel

end Rule.DeclarationOrder
end SheetLint
