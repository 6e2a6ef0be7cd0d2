import Mathlib.Data.List.TakeWhile
import SheetLint.Rule
import SheetLint.Proofs.LedgerEntries

/-!
# The outcome of a rule

A rule fails at its first malformed node, and it leaves in the ledger what its
findings before that node report. So the outcome is known from the list of
findings: `record_failure` and `record_ledger`. Findings leave nothing out that a
rule could do: every ledger without equal shapes, with or without a failure, is
the outcome of some (`exists_findings`).
-/

namespace SheetLint
set_option autoImplicit false

namespace Finding

/-- What a finding of a rule reports. -/
def detection? (name : String) (severity : Severity) : Finding → Option Detection
  | offence node message => some (.ofNode name severity node message)
  | reported detection => some detection
  | malformed _ _ => none

/-- The failure that a finding is. -/
def failure? : Finding → Option Malformed
  | offence _ _ => none
  | reported _ => none
  | malformed node problem => some ⟨node.kind, node.start, problem⟩

end Finding

namespace Rule

theorem record_failure (name : String) (severity : Severity) (fs : List Finding) (ledger : Ledger Detection) :
    (record name severity fs ledger).failure = fs.findSome? Finding.failure? := by
  fun_induction record name severity fs ledger with
  | case1 ledger => rfl
  | case2 node message rest ledger ih => rw [ih, List.findSome?_cons]; rfl
  | case3 detection rest ledger ih => rw [ih, List.findSome?_cons]; rfl
  | case4 node problem rest ledger => rw [List.findSome?_cons]; rfl

theorem record_ledger (name : String) (severity : Severity) (fs : List Finding) (ledger : Ledger Detection) :
    (record name severity fs ledger).ledger =
      ledger.addAll ((fs.takeWhile (·.failure?.isNone)).filterMap (·.detection? name severity)) := by
  fun_induction record name severity fs ledger with
  | case1 ledger => rfl
  | case2 node message rest ledger ih => simpa [Finding.failure?, Finding.detection?, Ledger.addAll_cons] using ih
  | case3 detection rest ledger ih => simpa [Finding.failure?, Finding.detection?, Ledger.addAll_cons] using ih
  | case4 node problem rest ledger => simp [Finding.failure?, Ledger.addAll]

/-- A rule that does not fail leaves what all its findings report. -/
theorem record_ledger_of_ok {name : String} {severity : Severity} {fs : List Finding} {ledger : Ledger Detection}
    (ok : (record name severity fs ledger).failure = none) :
    (record name severity fs ledger).ledger = ledger.addAll (fs.filterMap (·.detection? name severity)) := by
  rw [record_failure, List.findSome?_eq_none_iff] at ok
  have whole : fs.takeWhile (·.failure?.isNone) = fs :=
    List.takeWhile_eq_self_iff.2 fun f mem => Option.isNone_iff_eq_none.2 (ok f mem)
  rw [record_ledger, whole]

/-- Whatever a rule writes to an empty ledger, and however it fails, some findings do the same. -/
theorem exists_findings (name : String) (severity : Severity) {ds : List Detection}
    (distinct : (ds.map Detection.shape).Nodup) (failure : Option Malformed) :
    ∃ fs, record name severity fs .empty = ⟨⟨ds⟩, failure⟩ := by
  let stop (e : Malformed) : Finding := .malformed (.leaf ⟨e.kind, .scss, e.position, e.position, []⟩ "") e.problem
  refine ⟨ds.map .reported ++ failure.toList.map stop, ?_⟩
  have goes_on : ∀ f ∈ ds.map Finding.reported, (f.failure?.isNone) = true := by
    intro f mem
    obtain ⟨d, -, rfl⟩ := List.mem_map.1 mem
    rfl
  have stops : (failure.toList.map stop).takeWhile (·.failure?.isNone) = [] := by
    cases failure <;> rfl
  have none : (ds.map Finding.reported).findSome? Finding.failure? = none := by
    rw [List.findSome?_eq_none_iff]
    intro f mem
    exact Option.isNone_iff_eq_none.1 (goes_on f mem)
  have taken : Ledger.newTo [] ds = ds :=
    Ledger.newTo_of_distinct distinct fun _ _ => List.not_mem_nil
  have ledger : (record name severity (ds.map .reported ++ failure.toList.map stop) .empty).ledger = ⟨ds⟩ := by
    rw [record_ledger, List.takeWhile_append_of_pos goes_on, stops, List.append_nil, List.filterMap_map]
    have entries := Ledger.addAll_entries Ledger.empty ds
    rw [show (Ledger.empty : Ledger Detection).entries.map Shaped.shape = [] from rfl, taken] at entries
    have all : ds.filterMap ((·.detection? name severity) ∘ Finding.reported) = ds := List.filterMap_some
    rw [all]
    exact congrArg Ledger.mk entries
  have ends : (record name severity (ds.map .reported ++ failure.toList.map stop) .empty).failure = failure := by
    rw [record_failure, List.findSome?_append, none, Option.none_or]
    cases failure <;> rfl
  calc record name severity (ds.map .reported ++ failure.toList.map stop) .empty
      = ⟨(record name severity (ds.map .reported ++ failure.toList.map stop) .empty).ledger,
          (record name severity (ds.map .reported ++ failure.toList.map stop) .empty).failure⟩ := rfl
    _ = ⟨⟨ds⟩, failure⟩ := by rw [ledger, ends]

end Rule
end SheetLint
