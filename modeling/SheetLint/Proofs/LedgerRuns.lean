import Mathlib.Data.List.Induction
import SheetLint.Detection
import SheetLint.Proofs.LedgerEntries

/-!
# A ledger after a run of submissions

What one submission does to a ledger is said by `isNewB_add` and `Distinct.add`, and
what a run of them does follows by induction. A ledger that starts empty knows a
shape exactly when something of this shape was submitted, and it holds what was the
first of its shape when it came.
-/

namespace SheetLint.Ledger
set_option autoImplicit false

variable {α β : Type} [Shaped α] [Shaped β]

/-- No two entries have the same shape. -/
def Distinct (ledger : Ledger α) : Prop :=
  ledger.entries.Pairwise fun a b => sameShapeB a b = false

/-- The things of a list that come before all others of their shape, in the order of the list. -/
def firsts (xs : List α) : List α :=
  (xs.zipIdx.filter fun p => (xs.take p.2).all fun y => shape y != shape p.1).map Prod.fst

section Step

variable {ledger : Ledger α}

theorem add_of_new {x : α} (new : ledger.isNewB x = true) : ledger.add x = ⟨ledger.entries ++ [x]⟩ :=
  if_pos new

theorem add_of_known {x : α} (known : ledger.isNewB x = false) : ledger.add x = ledger :=
  if_neg (Bool.not_eq_true _ ▸ known)

/-- After a submission only its shape is known in addition. -/
theorem isNewB_add {y : α} {x : β} :
    (ledger.add y).isNewB x = true ↔ ledger.isNewB x = true ∧ shape y ≠ shape x := by
  cases new : ledger.isNewB y with
  | true =>
    rw [add_of_new new, isNewB_iff, isNewB_iff]
    simp only [List.mem_append, List.mem_singleton, or_imp, forall_and, forall_eq]
  | false =>
    rw [add_of_known new]
    refine ⟨fun unknown => ⟨unknown, fun same => ?_⟩, And.left⟩
    -- the entry that has the shape of `y` would have that of `x`
    have fresh : ledger.isNewB y = true := by
      rw [isNewB_iff, same]
      exact isNewB_iff.1 unknown
    exact absurd (new.symm.trans fresh) Bool.false_ne_true

theorem Distinct.add (distinct : ledger.Distinct) (x : α) : (ledger.add x).Distinct := by
  cases new : ledger.isNewB x with
  | true =>
    rw [add_of_new new, Distinct, List.pairwise_append]
    refine ⟨distinct, List.pairwise_singleton _ _, fun e mem y last => ?_⟩
    rw [List.mem_singleton.1 last, ← Bool.not_eq_true, sameShapeB_iff]
    exact isNewB_iff.1 new e mem
  | false => rwa [add_of_known new]

end Step

section Run

theorem addAll_snoc (ledger : Ledger α) (xs : List α) (x : α) :
    ledger.addAll (xs ++ [x]) = (ledger.addAll xs).add x := by
  simp [addAll]

theorem isNewB_addAll {ledger : Ledger α} {xs : List α} {x : β} :
    (ledger.addAll xs).isNewB x = true ↔ ledger.isNewB x = true ∧ ∀ y ∈ xs, shape y ≠ shape x := by
  induction xs generalizing ledger with
  | nil => simp [addAll]
  | cons y rest ih => rw [addAll_cons, ih, isNewB_add, List.forall_mem_cons, and_assoc]

theorem Distinct.addAll {ledger : Ledger α} (distinct : ledger.Distinct) (xs : List α) :
    (ledger.addAll xs).Distinct := by
  induction xs generalizing ledger with
  | nil => exact distinct
  | cons x rest ih => exact ih (distinct.add x)

theorem prefix_addAll (ledger : Ledger α) (xs : List α) : ledger.entries <+: (ledger.addAll xs).entries :=
  ⟨_, (addAll_entries ledger xs).symm⟩

/-- Things of known shapes leave a ledger as it is. -/
theorem addAll_of_known {ledger : Ledger α} {ys : List α} (known : ∀ y ∈ ys, ledger.isNewB y = false) :
    ledger.addAll ys = ledger := by
  induction ys with
  | nil => rfl
  | cons y rest ih =>
    obtain ⟨first, later⟩ := List.forall_mem_cons.1 known
    rw [addAll_cons, add_of_known first, ih later]

end Run

section FromEmpty

theorem isNewB_empty (x : β) : (empty : Ledger α).isNewB x = true := rfl

theorem isNewB_addAll_empty {xs : List α} {x : β} :
    (empty.addAll xs).isNewB x = true ↔ ∀ y ∈ xs, shape y ≠ shape x := by
  rw [isNewB_addAll, isNewB_empty, eq_self_iff_true, true_and]

theorem not_isNewB_addAll_empty {xs : List α} {x : β} :
    (empty.addAll xs).isNewB x = false ↔ ∃ y ∈ xs, shape y = shape x := by
  rw [← Bool.not_eq_true, isNewB_addAll_empty]
  simp only [not_forall, not_not, exists_prop]

/-- One more thing at the end is kept where nothing of its shape came before. -/
theorem firsts_snoc (xs : List α) (x : α) :
    firsts (xs ++ [x]) = firsts xs ++ if xs.all (fun y => shape y != shape x) then [x] else [] := by
  have earlier : ∀ p ∈ xs.zipIdx, ((xs ++ [x]).take p.2).all (fun y => shape y != shape p.1) =
      (xs.take p.2).all fun y => shape y != shape p.1 := by
    intro p mem
    rw [List.take_append_of_le_length (Nat.le_of_lt (List.snd_lt_of_mem_zipIdx mem))]
  rw [firsts, List.zipIdx_append, List.filter_append, List.filter_congr earlier, List.map_append, firsts]
  split <;> simp_all

/-- What a run of submissions leaves in an empty ledger. -/
theorem entries_addAll_empty (xs : List α) : (empty.addAll xs).entries = firsts xs := by
  induction xs using List.reverseRecOn with
  | nil => rfl
  | append_singleton xs x ih =>
    have known : (empty.addAll xs).isNewB x = xs.all fun y => shape y != shape x := by
      rw [Bool.eq_iff_iff, isNewB_addAll_empty]
      simp
    rw [addAll_snoc, firsts_snoc, ← known, ← ih, add]
    split <;> simp

end FromEmpty

/-- **A ledger after a run of submissions.** It holds the things that were the first of their shape, in the
order they came, and no two of one shape. A shape is known to it exactly when something with this shape was
submitted, whatever kind of thing is asked about, and more things of shapes that occurred change nothing. -/
theorem addAll_empty_keeps_firsts (xs : List α) :
    (empty.addAll xs).entries = firsts xs ∧
    (empty.addAll xs).Distinct ∧
    (∀ {β : Type} [Shaped β] (x : β), (empty.addAll xs).isNewB x = false ↔ ∃ y ∈ xs, shape y = shape x) ∧
    ∀ ys : List α, (∀ y ∈ ys, ∃ x ∈ xs, shape x = shape y) → (empty.addAll xs).addAll ys = empty.addAll xs := by
  refine ⟨entries_addAll_empty xs, Distinct.addAll List.Pairwise.nil xs, fun x => not_isNewB_addAll_empty, ?_⟩
  intro ys occurred
  exact addAll_of_known fun y mem => not_isNewB_addAll_empty.2 (occurred y mem)

/-- A class with one name in it. -/
def sampleClass (text : String) (line : Nat) : Node :=
  .branch ⟨"class", .scss, ⟨line, 1⟩, ⟨line, 4⟩, []⟩ [.leaf ⟨"ident", .scss, ⟨line, 2⟩, ⟨line, 4⟩, []⟩ text]

/-- The shape of a class does not tell its name, and a detection has the shape of its node. -/
theorem addAll_empty_keeps_firsts_sample :
    (empty.addAll [sampleClass "foo" 5, sampleClass "test" 9]).isNewB
      (Detection.ofNode "no-class" .warning (sampleClass "bar" 5) "") = false ∧
    (empty.addAll [sampleClass "foo" 5, sampleClass "test" 9]).addAll [sampleClass "bar" 5, sampleClass "test" 9] =
      empty.addAll [sampleClass "foo" 5, sampleClass "test" 9] := by
  obtain ⟨-, -, known, again⟩ := addAll_empty_keeps_firsts [sampleClass "foo" 5, sampleClass "test" 9]
  refine ⟨(known _).2 ⟨sampleClass "foo" 5, .head _, rfl⟩, again _ fun y mem => ?_⟩
  rcases List.mem_cons.1 mem with rfl | mem
  · exact ⟨sampleClass "foo" 5, .head _, rfl⟩
  · exact ⟨y, .tail _ mem, rfl⟩

end SheetLint.Ledger
