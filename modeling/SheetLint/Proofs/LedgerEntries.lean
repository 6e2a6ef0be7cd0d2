import SheetLint.Ledger

/-!
# What a ledger keeps

A ledger keeps of each shape the first thing that comes with it. `newTo` lists
what a ledger takes of a list, `addAll_entries` ties it to the ledger, and
`filter_shape_addAll` reads it off shape by shape: of the things of one shape
there is the first and no other.
-/

namespace SheetLint.Ledger
set_option autoImplicit false

variable {α : Type} [Shaped α]

/-- The things that bring a shape which is not among `seen` and did not come before. -/
def newTo (seen : List Shape) : List α → List α
  | [] => []
  | x :: rest => if shape x ∈ seen then newTo seen rest else x :: newTo (shape x :: seen) rest

theorem isNewB_iff_not_mem {ledger : Ledger α} {x : α} :
    ledger.isNewB x = true ↔ shape x ∉ ledger.entries.map shape := by
  simp [isNewB_iff]

/-- Which shapes were seen counts, not their order or how often they were. -/
theorem newTo_congr {seen seen' : List Shape} (same : ∀ s, s ∈ seen ↔ s ∈ seen') (xs : List α) :
    newTo seen xs = newTo seen' xs := by
  induction xs generalizing seen seen' with
  | nil => rfl
  | cons x rest ih =>
    have more : ∀ s, s ∈ shape x :: seen ↔ s ∈ shape x :: seen' := by
      intro s
      rw [List.mem_cons, List.mem_cons, same s]
    simp only [newTo, same (shape x), ih same, ih more]

theorem addAll_cons (ledger : Ledger α) (x : α) (xs : List α) :
    ledger.addAll (x :: xs) = (ledger.add x).addAll xs := rfl

theorem addAll_entries (ledger : Ledger α) (xs : List α) :
    (ledger.addAll xs).entries = ledger.entries ++ newTo (ledger.entries.map shape) xs := by
  induction xs generalizing ledger with
  | nil => simp [addAll, newTo]
  | cons x xs ih =>
    rw [addAll_cons, ih, newTo]
    by_cases new : ledger.isNewB x = true
    · have fresh := isNewB_iff_not_mem.1 new
      have seen : newTo ((ledger.entries ++ [x]).map shape) xs = newTo (shape x :: ledger.entries.map shape) xs := by
        refine newTo_congr (fun s => ?_) xs
        simp [or_comm]
      rw [add, if_pos new, if_neg fresh, List.append_assoc, seen]
      rfl
    · have old : shape x ∈ ledger.entries.map shape :=
        Decidable.not_not.1 fun fresh => new (isNewB_iff_not_mem.2 fresh)
      rw [add, if_neg new, if_pos old]

theorem newTo_sublist (seen : List Shape) (xs : List α) : (newTo seen xs).Sublist xs := by
  induction xs generalizing seen with
  | nil => exact List.Sublist.slnil
  | cons x rest ih =>
    rw [newTo]
    split
    · exact (ih seen).cons x
    · exact (ih _).cons_cons x

theorem filter_shape_newTo (seen : List Shape) (xs : List α) (s : Shape) :
    (newTo seen xs).filter (shape · == s) =
      if s ∈ seen then [] else (xs.find? (shape · == s)).toList := by
  induction xs generalizing seen with
  | nil => simp [newTo]
  | cons x rest ih =>
    rw [newTo]
    by_cases here : shape x = s
    · subst here
      by_cases old : shape x ∈ seen
      · simp [old, ih]
      · simp [old, ih]
    · have other : (shape x == s) = false := by simpa using here
      have same : s ∈ shape x :: seen ↔ s ∈ seen := by simp [Ne.symm here]
      split
      · simp [ih, other]
      · simp [ih, other, same]

/-- Of the things of a shape, a ledger that starts empty keeps the first. -/
theorem filter_shape_addAll (xs : List α) (s : Shape) :
    ((empty.addAll xs).entries).filter (shape · == s) = (xs.find? (shape · == s)).toList := by
  rw [addAll_entries, show (empty : Ledger α).entries = [] from rfl, List.nil_append, filter_shape_newTo]
  simp

/-- A ledger takes all things of which no two have the same shape. -/
theorem newTo_of_distinct {seen : List Shape} {xs : List α} (distinct : (xs.map shape).Nodup)
    (unseen : ∀ x ∈ xs, shape x ∉ seen) : newTo seen xs = xs := by
  induction xs generalizing seen with
  | nil => rfl
  | cons x rest ih =>
    obtain ⟨alone, distinct⟩ := List.nodup_cons.1 distinct
    rw [newTo, if_neg (unseen x List.mem_cons_self), ih distinct]
    intro y mem
    rw [List.mem_cons, not_or]
    refine ⟨fun same => alone ?_, unseen y (List.mem_cons_of_mem x mem)⟩
    exact same ▸ List.mem_map.2 ⟨y, mem, rfl⟩

theorem mem_of_mem_addAll_empty {x : α} {xs : List α} (mem : x ∈ (empty.addAll xs).entries) : x ∈ xs := by
  rw [addAll_entries, show (empty : Ledger α).entries = [] from rfl, List.nil_append] at mem
  exact (newTo_sublist _ xs).subset mem

end SheetLint.Ledger
