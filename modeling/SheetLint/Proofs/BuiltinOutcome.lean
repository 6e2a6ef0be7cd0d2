import Mathlib.Data.List.Nodup
import SheetLint.Proofs.LintRun
import SheetLint.Proofs.Violations

/-!
# The outcome of a built-in rule

A built-in rule that does not fail leaves a detection for each violation, in the
order of its visits, less those whose shape an earlier violation had. All of them
carry the name of the rule and sit where their node starts. So a report can be
taken apart by the names in it: where each rule is registered at most once, the
messages of a rule are what this rule contributes (`filter_rule_messages`).
-/

namespace SheetLint.Rule
set_option autoImplicit false

/-- A check finds nothing at a site, or an offence of its node, or something malformed. -/
theorem Check.findingAt_cases (c : Check) (s : Site) :
    c.findingAt s = none ∨ (∃ text, c.findingAt s = some (.offence s.node text)) ∨
      ∃ n problem, c.findingAt s = some (.malformed n problem) := by
  cases c with
  | declarationOrder policy =>
    simp only [findingAt, DeclarationOrder.findingAt]
    split
    · split <;> simp
    · simp
  | hexDigits =>
    simp only [findingAt, HexDigits.checkColor]
    split
    · simp
    · split <;> simp
  | hexCase style =>
    simp only [findingAt, HexCase.checkColor]
    split
    · simp
    · split <;> simp
  | zeroUnit =>
    simp only [findingAt, ZeroUnit.checkDimension]
    split
    · simp
    · split
      · simp
      · split <;> simp
  | blockSpacing wanted =>
    simp only [findingAt, BlockSpacing.findingAt, BlockSpacing.checkChild]
    split
    · simp
    · split
      · simp only [BlockSpacing.checkSpace]
        split
        · simp
        · split <;> simp
      · simp

namespace Builtin

variable {b : Builtin} {context : FileContext} {tree : Node}

@[simp] theorem rule_name (b : Builtin) : b.rule.name = b.name := rfl

/-- What the rule reports at a site. -/
def detectionAt? (b : Builtin) (s : Site) : Option Detection :=
  (b.check.findingAt s).bind (·.detection? b.name b.severity)

theorem detectionAt?_eq_some_iff {s : Site} (visited : s ∈ b.check.visits tree) {d : Detection} :
    b.detectionAt? s = some d ↔
      b.check.Violates s ∧ ∃ text, b.check.Says s text ∧ d = .ofNode b.name b.severity s.node text := by
  have offence := @Check.findingAt_eq_offence_iff b.check tree s visited
  constructor
  · intro found
    rcases b.check.findingAt_cases s with h | ⟨text, h⟩ | ⟨n, problem, h⟩
    · simp [detectionAt?, h] at found
    · obtain ⟨-, violates, said⟩ := offence.1 h
      have same : Detection.ofNode b.name b.severity s.node text = d := by
        simpa [detectionAt?, h, Finding.detection?] using found
      exact ⟨violates, text, said, same.symm⟩
    · simp [detectionAt?, h, Finding.detection?] at found
  · rintro ⟨violates, text, said, rfl⟩
    have found := offence.2 ⟨rfl, violates, said⟩
    simp [detectionAt?, found, Finding.detection?]

theorem detect_eq (b : Builtin) (context : FileContext) (tree : Node) (ledger : Ledger Detection) :
    b.rule.detect context tree ledger =
      record b.name b.severity ((b.check.visits tree).filterMap b.check.findingAt) ledger := by
  have findings : b.rule.findings context tree = (b.check.visits tree).filterMap b.check.findingAt :=
    b.check.findings_eq context tree
  rw [detect, findings]
  rfl

/-- A rule that does not fail leaves what it reports at its sites. -/
theorem entries_eq (ok : (b.rule.detect context tree .empty).failure = none) :
    (b.rule.detect context tree .empty).ledger.entries =
      (Ledger.empty.addAll ((b.check.visits tree).filterMap b.detectionAt?)).entries := by
  rw [detect_eq] at ok ⊢
  rw [record_ledger_of_ok ok, List.filterMap_filterMap]
  rfl

/-- Everything that a rule leaves is about a violation. -/
theorem exists_violation_of_mem_entries (ok : (b.rule.detect context tree .empty).failure = none) {d : Detection}
    (mem : d ∈ (b.rule.detect context tree .empty).ledger.entries) :
    ∃ s ∈ b.check.visits tree, b.check.Violates s ∧
      ∃ text, b.check.Says s text ∧ d = .ofNode b.name b.severity s.node text := by
  rw [entries_eq ok] at mem
  obtain ⟨s, visited, found⟩ := List.mem_filterMap.1 (Ledger.mem_of_mem_addAll_empty mem)
  exact ⟨s, visited, (detectionAt?_eq_some_iff visited).1 found⟩

/-- Everything that a rule contributes to a report carries its name. -/
theorem rule_of_mem_contribution {config : Config} {suppressions : Suppression}
    (ok : (b.rule.detect context tree .empty).failure = none) {d : Detection}
    (mem : d ∈ Linter.contribution config context suppressions tree b.rule) : d.rule = b.name := by
  obtain ⟨adjusted, -⟩ := List.mem_filter.1 mem
  obtain ⟨e, entry, rfl⟩ := List.mem_map.1 adjusted
  obtain ⟨s, -, -, text, -, rfl⟩ := exists_violation_of_mem_entries ok entry
  rw [Linter.override_rule]
  rfl

end Builtin
end SheetLint.Rule

namespace SheetLint.Linter
open Rule (Builtin)

/-- The linter that applies built-in rules. -/
def ofBuiltins (root : String) (registered : List Builtin) (config : Config) : Linter :=
  ⟨root, registered.map Builtin.rule, config⟩

section OfBuiltins

variable (root : String) (registered : List Builtin) (config : Config)

@[simp] theorem ofBuiltins_root : (ofBuiltins root registered config).root = root := rfl

@[simp] theorem ofBuiltins_config : (ofBuiltins root registered config).config = config := rfl

end OfBuiltins

variable {root : String} {registered : List Builtin} {config : Config} {path : String} {tree : Node}

theorem enabledRules_ofBuiltins :
    (ofBuiltins root registered config).enabledRules =
      (registered.filter fun b => config.enabledB b.name).map Builtin.rule := by
  rw [enabledRules, ofBuiltins, List.filter_map]
  rfl

/-- A run of built-in rules is the loop over those that are on, and then the report. -/
theorem lintTree_ofBuiltins_eq :
    (ofBuiltins root registered config).lintTree path tree =
      (messagesOfAll config (FileContext.of path root tree) (Suppression.ofTree tree) tree
        ((registered.filter fun b => config.enabledB b.name).map Builtin.rule)).map fun messages =>
          .ofMessages (FileContext.of path root tree).relativePath messages := by
  simp only [lintTree, enabledRules_ofBuiltins, ofBuiltins_root, ofBuiltins_config]
  cases messagesOfAll config (FileContext.of path root tree) (Suppression.ofTree tree) tree
    ((registered.filter fun b => config.enabledB b.name).map Builtin.rule) <;> rfl

/-- Keeping the messages of rules of certain names is keeping what these rules contribute. -/
theorem filter_rule_contributions {context : FileContext} {suppressions : Suppression} (keep : String → Bool)
    {rules : List Builtin} (works : ∀ b ∈ rules, (b.rule.detect context tree .empty).failure = none) :
    (rules.flatMap fun b => contribution config context suppressions tree b.rule).filter (fun d => keep d.rule) =
      (rules.filter fun b => keep b.name).flatMap fun b => contribution config context suppressions tree b.rule := by
  induction rules with
  | nil => rfl
  | cons b rest ih =>
    obtain ⟨first, later⟩ := List.forall_mem_cons.1 works
    have own : ∀ d ∈ contribution config context suppressions tree b.rule, keep d.rule = keep b.name := by
      intro d mem
      rw [Builtin.rule_of_mem_contribution first mem]
    rw [List.flatMap_cons, List.filter_append, ih later, List.filter_congr own, List.filter_cons]
    by_cases kept : keep b.name = true
    · simp [kept]
    · simp [kept]

/-- A run of built-in rules goes through exactly when none of those that are on fails. -/
theorem lintTree_ofBuiltins_eq_ok_iff {report : FileReport} :
    (ofBuiltins root registered config).lintTree path tree = .ok report ↔
      (∀ b ∈ registered.filter fun b => config.enabledB b.name,
        (b.rule.detect (FileContext.of path root tree) tree .empty).failure = none) ∧
      report = .ofMessages (FileContext.of path root tree).relativePath
        ((registered.filter fun b => config.enabledB b.name).flatMap fun b =>
          contribution config (FileContext.of path root tree) (Suppression.ofTree tree) tree b.rule) := by
  rw [lintTree_eq_ok_iff, enabledRules_ofBuiltins, List.forall_mem_map, List.flatMap_map]
  rfl

/-- Where each rule is registered at most once, its name picks it out. -/
theorem filter_name_eq (once : (registered.map Builtin.name).Nodup) {b : Builtin} (mem : b ∈ registered) :
    (registered.filter fun a => a.name == b.name) = [b] := by
  induction registered with
  | nil => exact absurd mem List.not_mem_nil
  | cons a rest ih =>
    obtain ⟨new, once⟩ := List.nodup_cons.1 once
    rcases List.mem_cons.1 mem with rfl | mem
    · have others : (rest.filter fun a => a.name == b.name) = [] := by
        rw [List.filter_eq_nil_iff]
        intro a mem same
        exact new (List.mem_map.2 ⟨a, mem, eq_of_beq same⟩)
      rw [List.filter_cons, if_pos (beq_self_eq_true _), others]
    · have differs : ¬ (a.name == b.name) = true := by
        intro same
        exact new (List.mem_map.2 ⟨b, mem, (eq_of_beq same).symm⟩)
      rw [List.filter_cons, if_neg differs, ih once mem]

/-- The messages of a rule in a report are what the rule contributes, in order of position. -/
theorem filter_rule_messages {report : FileReport} (once : (registered.map Builtin.name).Nodup)
    (ok : (ofBuiltins root registered config).lintTree path tree = .ok report) {b : Builtin}
    (mem : b ∈ registered) :
    report.messages.filter (·.rule == b.name) =
      if config.enabledB b.name then
        Detection.sorted (contribution config (FileContext.of path root tree) (Suppression.ofTree tree) tree b.rule)
      else [] := by
  obtain ⟨works, rfl⟩ := lintTree_ofBuiltins_eq_ok_iff.1 ok
  rw [FileReport.ofMessages_messages, Detection.filter_sorted, filter_rule_contributions (· == b.name) works,
    List.filter_comm, filter_name_eq once mem, List.filter_cons]
  split
  · rw [List.filter_nil, List.flatMap_singleton]
  · exact List.mergeSort_nil

section Sample

/-- What the sample stylesheet carries beside its children. -/
def sampleInfo : NodeInfo := ⟨"stylesheet", .scss, ⟨1, 1⟩, ⟨3, 16⟩, []⟩

/-- A length with a unit that it does not need, and two colors of one shape that are too short. -/
def sampleChildren : List Node :=
  [.branch ⟨"dimension", .scss, ⟨3, 13⟩, ⟨3, 16⟩, []⟩
      [.leaf ⟨"number", .scss, ⟨3, 13⟩, ⟨3, 14⟩, []⟩ "0", .leaf ⟨"ident", .scss, ⟨3, 14⟩, ⟨3, 16⟩, []⟩ "px"],
    .leaf ⟨"color", .scss, ⟨3, 1⟩, ⟨3, 3⟩, []⟩ "ab", .leaf ⟨"color", .scss, ⟨3, 7⟩, ⟨3, 9⟩, []⟩ "cd"]

/-- The rules on lengths and on colors. -/
def sampleRules : List Builtin := [⟨.zeroUnit, .warning⟩, ⟨.hexDigits, .error⟩]

/-- The message about the length. -/
def lengthMessage : Detection :=
  ⟨⟨3, 13⟩, "zero-unit", "No unit allowed for values of 0, found `0px`", .warning, ⟨"dimension", 3, 3, 2⟩⟩

/-- The message about the first of the two colors. -/
def colorMessage : Detection :=
  ⟨⟨3, 1⟩, "no-invalid-hex", "Hexadecimal color `#ab` must be 3 or 6 hex digits", .error, ⟨"color", 3, 3, 2⟩⟩

theorem sampleRules_once : (sampleRules.map Builtin.name).Nodup := by decide +kernel

theorem suppressions_sample : Suppression.ofTree (.branch sampleInfo sampleChildren) = .empty := by
  rw [Suppression.ofTree, Suppression.entriesOf, Node.descendants_eq_preorder]
  decide +kernel

/-- The rules find the length first; in the report it comes last. -/
theorem lintTree_sample :
    (ofBuiltins "/p" sampleRules {}).lintTree "/p/a.scss.json" (.branch sampleInfo sampleChildren) =
      .ok ⟨"a.scss", [colorMessage, lengthMessage], 1, 1⟩ := by
  have contributed : ((sampleRules.filter fun b => ({} : Config).enabledB b.name).flatMap fun b =>
      contribution {} (FileContext.of "/p/a.scss.json" "/p" (.branch sampleInfo sampleChildren)) .empty
        (.branch sampleInfo sampleChildren) b.rule) = [lengthMessage, colorMessage] := by
    simp only [contribution, Builtin.detect_eq]
    decide +kernel
  refine lintTree_ofBuiltins_eq_ok_iff.2 ⟨?_, ?_⟩
  · simp only [Builtin.detect_eq]
    decide +kernel
  · have later : lengthMessage.position.leB colorMessage.position = false := rfl
    have order : Detection.sorted [lengthMessage, colorMessage] = [colorMessage, lengthMessage] := by
      simp [Detection.sorted, List.mergeSort, List.MergeSort.Internal.splitInTwo, later]
    rw [suppressions_sample, contributed, FileReport.ofMessages, order]
    decide +kernel

end Sample
end SheetLint.Linter
