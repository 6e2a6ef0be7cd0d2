/-!
# Sorting by a key

Sorting things by a key is stable: things of one key stay in the order they came. An
ascending list is told by what it holds at each key (`eq_of_ascending`), so leaving
things out before or after sorting makes no difference (`filter_sortedBy`).
-/

namespace SheetLint
set_option autoImplicit false

/-- Things in order of their keys, those of one key in the order they came. -/
def sortedBy {α κ : Type} (le : κ → κ → Bool) (key : α → κ) (xs : List α) : List α :=
  xs.mergeSort fun a b => le (key a) (key b)

/-- Of any two keys one comes first, and only equal keys come before each other. -/
structure KeyOrder {κ : Type} (le : κ → κ → Bool) : Prop where
  trans : ∀ {a b c}, le a b = true → le b c = true → le a c = true
  total : ∀ a b, (le a b || le b a) = true
  antisymm : ∀ {a b}, le a b = true → le b a = true → a = b

variable {α κ : Type} {le : κ → κ → Bool} {key : α → κ}

theorem sortedBy_perm (xs : List α) : (sortedBy le key xs).Perm xs :=
  List.mergeSort_perm xs _

namespace KeyOrder

theorem refl (order : KeyOrder le) (a : κ) : le a a = true := by
  simpa using order.total a a

theorem sortedBy_ascending (order : KeyOrder le) (xs : List α) :
    (sortedBy le key xs).Pairwise fun a b => le (key a) (key b) = true := by
  refine List.pairwise_mergeSort ?_ ?_ xs
  · intro a b c
    exact order.trans
  · intro a b
    exact order.total (key a) (key b)

theorem sortedBy_stable [DecidableEq κ] (order : KeyOrder le) (xs : List α) (k : κ) :
    (sortedBy le key xs).filter (key · == k) = xs.filter (key · == k) := by
  -- what has the key `k` is a sublist in order, so it is still there after sorting
  have level : (xs.filter (key · == k)).Pairwise fun a b => le (key a) (key b) = true := by
    refine List.pairwise_of_forall_mem_list fun a ha b hb => ?_
    rw [eq_of_beq (List.mem_filter.1 ha).2, eq_of_beq (List.mem_filter.1 hb).2]
    exact order.refl k
  have inside : (xs.filter (key · == k)).Sublist (sortedBy le key xs) := by
    refine List.sublist_mergeSort ?_ ?_ level List.filter_sublist
    · intro a b c
      exact order.trans
    · intro a b
      exact order.total (key a) (key b)
  have kept := inside.filter (key · == k)
  rw [List.filter_filter] at kept
  simp only [Bool.and_self] at kept
  exact (kept.eq_of_length ((sortedBy_perm xs).filter _).length_eq.symm).symm

/-- Two ascending lists start at the same key when they hold the same things. -/
theorem head_key_eq (order : KeyOrder le) {x y : α} {xs ys : List α}
    (up : (x :: xs).Pairwise fun a b => le (key a) (key b) = true)
    (up' : (y :: ys).Pairwise fun a b => le (key a) (key b) = true)
    (same : (x :: xs).Perm (y :: ys)) : key x = key y := by
  have least {a b : α} {as : List α} (up : (a :: as).Pairwise fun a b => le (key a) (key b) = true)
      (mem : b ∈ a :: as) : le (key a) (key b) = true := by
    rcases List.mem_cons.1 mem with rfl | mem
    · exact order.refl _
    · exact List.rel_of_pairwise_cons up mem
  exact order.antisymm (least up (same.mem_iff.2 List.mem_cons_self))
    (least up' (same.mem_iff.1 List.mem_cons_self))

/-- Ascending lists that agree at every key are equal. -/
theorem eq_of_ascending [DecidableEq κ] (order : KeyOrder le) {xs ys : List α} (same : xs.Perm ys)
    (up : xs.Pairwise fun a b => le (key a) (key b) = true)
    (up' : ys.Pairwise fun a b => le (key a) (key b) = true)
    (agree : ∀ k, xs.filter (key · == k) = ys.filter (key · == k)) : xs = ys := by
  induction xs generalizing ys with
  | nil => exact same.nil_eq
  | cons x xs ih =>
    cases ys with
    | nil => exact same.eq_nil
    | cons y ys =>
      have level := order.head_key_eq up up' same
      have here := agree (key x)
      simp only [List.filter_cons, beq_self_eq_true, if_true, level, List.cons.injEq] at here
      obtain ⟨rfl, -⟩ := here
      have rest : xs = ys := by
        refine ih ((List.perm_cons x).1 same) up.of_cons up'.of_cons fun k => ?_
        have whole := agree k
        simp only [List.filter_cons] at whole
        split at whole
        · exact (List.cons.inj whole).2
        · exact whole
      rw [rest]

theorem filter_sortedBy [DecidableEq κ] (order : KeyOrder le) (q : α → Bool) (xs : List α) :
    (sortedBy le key xs).filter q = sortedBy le key (xs.filter q) := by
  refine order.eq_of_ascending (((sortedBy_perm xs).filter q).trans (sortedBy_perm _).symm)
    ((order.sortedBy_ascending xs).filter q) (order.sortedBy_ascending _) fun k => ?_
  rw [order.sortedBy_stable, List.filter_filter, List.filter_filter]
  simp only [Bool.and_comm _ (q _)]
  rw [← List.filter_filter, order.sortedBy_stable, List.filter_filter]

end KeyOrder
end SheetLint
