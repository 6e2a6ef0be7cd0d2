import SheetLint.Proofs.StableSort
import SheetLint.Report

/-!
# Messages in order of position

Sorting detections by position is stable: it keeps the order of what stands at
one position. `StableOrder` says what a list has to be to count as the ordered form
of another, `sorted_eq_iff` that there is exactly one such list and that sorting
gives it, and `filter_sorted` that leaving detections out before or after makes
no difference. Reports and ledgers order their messages in this way.
-/

namespace SheetLint
set_option autoImplicit false

/-- `a` is on an earlier line than `b`, or on the same line and not further right. -/
def Position.Le (a b : Position) : Prop :=
  a.line < b.line ∨ (a.line = b.line ∧ a.column ≤ b.column)

namespace Position

theorem leB_iff {a b : Position} : a.leB b = true ↔ a.Le b := by
  simp [leB, Le]

theorem Le.trans {a b c : Position} (ab : a.Le b) (bc : b.Le c) : a.Le c := by
  unfold Le at *
  omega

theorem Le.total (a b : Position) : a.Le b ∨ b.Le a := by
  unfold Le
  omega

theorem Le.antisymm {a b : Position} (ab : a.Le b) (ba : b.Le a) : a = b := by
  obtain ⟨line, column⟩ := a
  obtain ⟨line', column'⟩ := b
  simp only [Le, Position.mk.injEq] at *
  omega

/-- The comparison puts no position after one that it is at or before. -/
theorem compare_ne_gt_iff {a b : Position} : a.compare b ≠ .gt ↔ a.Le b := by
  obtain ⟨line, column⟩ := a
  obtain ⟨line', column'⟩ := b
  unfold compare Le
  dsimp only
  rcases Nat.lt_trichotomy line line' with before | same | after
  · rw [Nat.compare_eq_lt.2 before]
    simp [Ordering.then, before]
  · rw [Nat.compare_eq_eq.2 same, Ordering.then, Nat.compare_ne_gt]
    omega
  · rw [Nat.compare_eq_gt.2 after]
    simp only [Ordering.then, ne_eq, not_true_eq_false, false_iff]
    omega

theorem leB_trans (a b c : Position) (ab : a.leB b = true) (bc : b.leB c = true) : a.leB c = true :=
  leB_iff.2 ((leB_iff.1 ab).trans (leB_iff.1 bc))

theorem leB_total (a b : Position) : (a.leB b || b.leB a) = true := by
  rw [Bool.or_eq_true, leB_iff, leB_iff]
  exact Le.total a b

/-- Positions by line, then by column. -/
theorem keyOrder : KeyOrder leB where
  trans := leB_trans _ _ _
  total := leB_total
  antisymm ab ba := (leB_iff.1 ab).antisymm (leB_iff.1 ba)

end Position

namespace Detection

/-- `out` is `ds` in order of position, with the order of `ds` kept at each position. -/
structure StableOrder (ds out : List Detection) : Prop where
  permutes : out.Perm ds
  ascending : out.Pairwise fun a b => a.position.Le b.position
  stable : ∀ p, out.filter (·.position == p) = ds.filter (·.position == p)

theorem sorted_perm (ds : List Detection) : (sorted ds).Perm ds :=
  sortedBy_perm ds

theorem ascending_iff {ds : List Detection} :
    (ds.Pairwise fun a b => a.position.leB b.position = true) ↔ ds.Pairwise fun a b => a.position.Le b.position := by
  simp only [Position.leB_iff]

theorem sorted_ascending (ds : List Detection) : (sorted ds).Pairwise fun a b => a.position.Le b.position :=
  ascending_iff.1 (Position.keyOrder.sortedBy_ascending ds)

theorem sorted_stableOrder (ds : List Detection) : StableOrder ds (sorted ds) :=
  ⟨sorted_perm ds, sorted_ascending ds, Position.keyOrder.sortedBy_stable ds⟩

/-- Ascending lists that agree at every position are equal. -/
theorem eq_of_ascending {xs ys : List Detection} (same : xs.Perm ys)
    (up : xs.Pairwise fun a b => a.position.Le b.position) (up' : ys.Pairwise fun a b => a.position.Le b.position)
    (agree : ∀ p, xs.filter (·.position == p) = ys.filter (·.position == p)) : xs = ys :=
  Position.keyOrder.eq_of_ascending same (ascending_iff.2 up) (ascending_iff.2 up') agree

/-- **Sorting by position**: there is one ordered form of a list, and sorting gives it. -/
theorem sorted_eq_iff {ds out : List Detection} : sorted ds = out ↔ StableOrder ds out := by
  constructor
  · rintro rfl
    exact sorted_stableOrder ds
  · intro h
    exact eq_of_ascending ((sorted_perm ds).trans h.permutes.symm) (sorted_ascending ds) h.ascending
      fun p => ((sorted_stableOrder ds).stable p).trans (h.stable p).symm

theorem filter_sorted (q : Detection → Bool) (ds : List Detection) :
    (sorted ds).filter q = sorted (ds.filter q) :=
  Position.keyOrder.filter_sortedBy q ds

/-- What is in order stays as it is. -/
theorem sorted_sorted (ds : List Detection) : sorted (sorted ds) = sorted ds :=
  sorted_eq_iff.2 ⟨.refl _, sorted_ascending ds, fun _ => rfl⟩

@[simp] theorem mem_sorted {d : Detection} {ds : List Detection} : d ∈ sorted ds ↔ d ∈ ds :=
  (sorted_perm ds).mem_iff

end Detection

namespace FileReport

@[simp] theorem ofMessages_messages (path : String) (ds : List Detection) :
    (ofMessages path ds).messages = Detection.sorted ds := rfl

/-- What is no error is counted as a warning. -/
theorem ofMessages_warningCount (path : String) (ds : List Detection) :
    (ofMessages path ds).warningCount = (Detection.sorted ds).countP (·.severity != .error) := by
  have split := List.length_eq_countP_add_countP (p := fun d : Detection => d.severity == .error)
    (l := Detection.sorted ds)
  have other : (Detection.sorted ds).countP (fun d => !(d.severity == .error)) =
      (Detection.sorted ds).countP (·.severity != .error) := rfl
  simp only [ofMessages]
  simp only [Bool.not_eq_true, Bool.decide_eq_false] at split
  omega

/-- The report of detections is told by its path, its messages in order, and their counts. -/
theorem eq_ofMessages_iff {report : FileReport} {path : String} {ds : List Detection} :
    report = ofMessages path ds ↔
      report.path = path ∧ Detection.StableOrder ds report.messages ∧
        report.errorCount = report.messages.countP (·.severity == .error) ∧
        report.warningCount = report.messages.countP (·.severity != .error) := by
  constructor
  · rintro rfl
    exact ⟨rfl, Detection.sorted_stableOrder ds, rfl, ofMessages_warningCount path ds⟩
  · obtain ⟨path', messages, warnings, errors⟩ := report
    rintro ⟨same, order, errors_eq, warnings_eq⟩
    simp only at same order errors_eq warnings_eq
    obtain rfl := Detection.sorted_eq_iff.2 order
    rw [same, errors_eq, warnings_eq, ← ofMessages_warningCount path ds]
    rfl

/-- **Messages in order of position.** The messages of a report, and the detections of a ledger, are the one list that
has the detections given, goes up by line and then by column, and keeps the order given among those at one position.
Going up is what the comparison of positions says. Ordering messages that are in order changes nothing, and leaving out
detections, by whatever they are told, can be done before or after. -/
theorem messages_uniquely_in_order (path : String) (ds : List Detection) :
    (∀ out, (ofMessages path ds).messages = out ↔ Detection.StableOrder ds out) ∧
    (∀ out, (Ledger.mk ds).sorted = out ↔ Detection.StableOrder ds out) ∧
    (∀ a b : Position, a.Le b ↔ a.compare b ≠ .gt) ∧
    (∀ path', (ofMessages path' (ofMessages path ds).messages).messages = (ofMessages path ds).messages) ∧
    ∀ keep : Detection → Bool,
      (ofMessages path (ds.filter keep)).messages = (ofMessages path ds).messages.filter keep ∧
      (Ledger.mk (ds.filter keep)).sorted = (Ledger.mk ds).sorted.filter keep := by
  refine ⟨fun out => Detection.sorted_eq_iff, fun out => Detection.sorted_eq_iff,
    fun a b => Position.compare_ne_gt_iff.symm, fun path' => Detection.sorted_sorted ds, fun keep => ?_⟩
  have commutes := (Detection.filter_sorted keep ds).symm
  exact ⟨commutes, commutes⟩

end FileReport
end SheetLint
