import SheetLint.Proofs.Malformations

/-!
# A built-in rule run again on its own ledger

A rule reaches the sites before the first that stops it, and it leaves the ledger
it was given with the violations at these sites added (`detect_eq_reached`). After
the run the shape of each of them is known, from an entry that the run wrote or from
one that kept the violation out. The same run on the ledger that it left therefore
finds nothing new, and it is stopped by the same site.
-/

namespace SheetLint
set_option autoImplicit false

/-- What was submitted is known: submitting it again, in part and in any order, changes nothing. -/
theorem Ledger.addAll_of_subset {α : Type} [Shaped α] {xs ys : List α} (again : ys ⊆ xs) (ledger : Ledger α) :
    (ledger.addAll xs).addAll ys = ledger.addAll xs := by
  refine addAll_of_known fun y mem => ?_
  rw [← Bool.not_eq_true, isNewB_addAll]
  rintro ⟨-, unseen⟩
  exact unseen y (again mem) rfl

namespace Rule.Builtin

variable {b : Builtin} {tree : Node}

/-- The sites that the rule reaches: those before the first that stops it. -/
def reached (b : Builtin) (tree : Node) : List Site :=
  (b.check.visits tree).takeWhile fun s => (b.failureAt? s).isNone

/-- Whether or not the rule is stopped, its outcome is told by the sites it reaches and the first that stops
it. -/
theorem detect_eq_reached (b : Builtin) (context : FileContext) (tree : Node) (ledger : Ledger Detection) :
    b.rule.detect context tree ledger =
      ⟨ledger.addAll ((b.reached tree).filterMap b.detectionAt?), (b.check.visits tree).findSome? b.failureAt?⟩ := by
  have goes_on {sites : List Site} (fine : ∀ s ∈ sites, b.failureAt? s = none) :
      ∀ s ∈ sites, (b.failureAt? s).isNone = true := fun s mem => Option.isNone_iff_eq_none.2 (fine s mem)
  rcases b.fine_or_first_stopped tree with fine | ⟨earlier, s, later, failure, split, fine, fails⟩
  · have all : b.reached tree = b.check.visits tree := List.takeWhile_eq_self_iff.2 (goes_on fine)
    rw [detect_of_fine fine, all, List.findSome?_eq_none_iff.2 fine]
  · have before : b.reached tree = earlier := by
      rw [reached, split, List.takeWhile_append_of_pos (goes_on fine)]
      simp [fails]
    have stop : (b.check.visits tree).findSome? b.failureAt? = some failure :=
      List.findSome?_eq_some_iff.2 ⟨earlier, s, later, split, fails, fine⟩
    rw [detect_of_stopped split fine fails, before, stop]

/-- A rule that does not fail reaches every site. -/
theorem reached_of_ok {context : FileContext} {ledger : Ledger Detection}
    (ok : (b.rule.detect context tree ledger).failure = none) : b.reached tree = b.check.visits tree := by
  rw [detect_eq_reached] at ok
  have fine : ∀ s ∈ b.check.visits tree, b.failureAt? s = none := List.findSome?_eq_none_iff.1 ok
  exact List.takeWhile_eq_self_iff.2 fun s mem => Option.isNone_iff_eq_none.2 (fine s mem)

theorem visited_of_reached {s : Site} (mem : s ∈ b.reached tree) : s ∈ b.check.visits tree :=
  (List.takeWhile_sublist _).subset mem

/-- After a run the ledger knows the shape of every violation that the rule reached. -/
theorem known_of_reached {s : Site} (mem : s ∈ b.reached tree) (violates : b.check.Violates s)
    (context : FileContext) (ledger : Ledger Detection) :
    (b.rule.detect context tree ledger).ledger.isNewB s.node = false := by
  obtain ⟨text, said⟩ := violates.exists_text
  have reported : b.detectionAt? s = some (.ofNode b.name b.severity s.node text) :=
    (detectionAt?_eq_some_iff (visited_of_reached mem)).2 ⟨violates, text, said, rfl⟩
  rw [detect_eq_reached, ← Bool.not_eq_true, Ledger.isNewB_addAll]
  rintro ⟨-, unseen⟩
  exact unseen _ (List.mem_filterMap.2 ⟨s, mem, reported⟩) rfl

/-- **A rule run again on its own ledger.** Whatever was in the ledger before, and whether or not the rule is
stopped, the first run leaves a ledger that knows the shape of every violation the rule reaches. On that ledger
the rule succeeds or fails as it did, and adds nothing. -/
theorem detect_again_on_own_ledger (b : Builtin) (context context' : FileContext) (tree : Node)
    (ledger : Ledger Detection) :
    (∀ s ∈ b.reached tree, b.check.Violates s →
      (b.rule.detect context tree ledger).ledger.isNewB s.node = false) ∧
    b.rule.detect context' tree (b.rule.detect context tree ledger).ledger = b.rule.detect context tree ledger := by
  constructor
  · intro s mem violates
    exact known_of_reached mem violates context ledger
  · rw [detect_eq_reached b context, detect_eq_reached b context', Ledger.addAll_of_subset (List.Subset.refl _)]

end Rule.Builtin
end SheetLint
