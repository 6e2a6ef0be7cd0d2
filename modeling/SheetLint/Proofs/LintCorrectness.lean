import SheetLint.Proofs.BuiltinOutcome

/-!
# A lint run reports the violations

For runs of built-in rules, each registered at most once. Every message of a rule
is about a violation, and every violation on a line where the rule is not switched
off has one message with its shape, that of the first violation of this shape.
Messages of one shape are on one line, so switching a rule off on a line never
takes away the first of a shape and leaves a later one.
-/

namespace SheetLint.Linter
set_option autoImplicit false
open Rule (Builtin)

/-- `first` is the first violation with a given shape among the sites that a rule looks at. -/
def IsFirstOfShape (b : Builtin) (tree : Node) (target : Shape) (first : Site) : Prop :=
  ∃ earlier later, b.check.visits tree = earlier ++ first :: later ∧ b.check.Violates first ∧
    shape first.node = target ∧ ∀ e ∈ earlier, b.check.Violates e → shape e.node ≠ target

section Contribution

variable {b : Builtin} {config : Config} {context : FileContext} {suppressions : Suppression} {tree : Node}

/-- The message about a violation: where its node starts, with the severity that is configured. -/
def messageAt (config : Config) (b : Builtin) (s : Site) (text : String) : Detection :=
  ⟨s.node.start, b.name, text, (config.severity? b.name).getD b.severity, shape s.node⟩

theorem override_ofNode (s : Site) (text : String) :
    override config b.name (.ofNode b.name b.severity s.node text) = messageAt config b s text := by
  rw [← adjust_eq_override]
  rfl

/-- What a rule contributes is about violations on lines where it is not switched off. -/
theorem mem_contribution (ok : (b.rule.detect context tree .empty).failure = none) {m : Detection}
    (mem : m ∈ contribution config context suppressions tree b.rule) :
    (∃ s ∈ b.check.visits tree, b.check.Violates s ∧ ∃ text, b.check.Says s text ∧ m = messageAt config b s text) ∧
      Suppression.disabledB suppressions m.position.line b.name = false := by
  obtain ⟨adjusted, on⟩ := List.mem_filter.1 mem
  obtain ⟨e, entry, rfl⟩ := List.mem_map.1 adjusted
  obtain ⟨s, visited, violates, text, said, rfl⟩ := Builtin.exists_violation_of_mem_entries ok entry
  rw [Rule.Builtin.rule_name, override_ofNode] at on ⊢
  exact ⟨⟨s, visited, violates, text, said, rfl⟩, by simpa using on⟩

/-- The entry of a shape is that of its first violation. -/
theorem filter_shape_entries (ok : (b.rule.detect context tree .empty).failure = none) {s : Site}
    (visited : s ∈ b.check.visits tree) (violates : b.check.Violates s) :
    ∃ first text, IsFirstOfShape b tree (shape s.node) first ∧ b.check.Says first text ∧
      (b.rule.detect context tree .empty).ledger.entries.filter (shape · == shape s.node) =
        [.ofNode b.name b.severity first.node text] := by
  -- the sites that report something of this shape; `s` is one, so there is a first
  let reports (x : Site) : Bool := (b.detectionAt? x).any (shape · == shape s.node)
  have reports_iff {x : Site} (mem : x ∈ b.check.visits tree) :
      reports x = true ↔ b.check.Violates x ∧ shape x.node = shape s.node := by
    simp only [reports, Option.any_eq_true, beq_iff_eq]
    constructor
    · rintro ⟨d, found, same⟩
      obtain ⟨violates, text, -, rfl⟩ := (Builtin.detectionAt?_eq_some_iff mem).1 found
      exact ⟨violates, same⟩
    · rintro ⟨violates, same⟩
      obtain ⟨text, said⟩ := violates.exists_text
      exact ⟨_, (Builtin.detectionAt?_eq_some_iff mem).2 ⟨violates, text, said, rfl⟩, same⟩
  have some_site : ((b.check.visits tree).find? reports).isSome = true := by
    rw [List.find?_isSome]
    exact ⟨s, visited, (reports_iff visited).2 ⟨violates, rfl⟩⟩
  obtain ⟨first, found⟩ := Option.isSome_iff_exists.1 some_site
  obtain ⟨here, earlier, later, split, none⟩ := List.find?_eq_some_iff_append.1 found
  have mem : first ∈ b.check.visits tree := by simp [split]
  obtain ⟨violates_first, same⟩ := (reports_iff mem).1 here
  obtain ⟨text, said⟩ := violates_first.exists_text
  refine ⟨first, text, ⟨earlier, later, split, violates_first, same, ?_⟩, said, ?_⟩
  · intro e before violates_e equal
    have mem_e : e ∈ b.check.visits tree := by simp [split, before]
    have not := none e before
    rw [(reports_iff mem_e).2 ⟨violates_e, equal⟩] at not
    exact absurd not (by decide)
  · have reported := (Builtin.detectionAt?_eq_some_iff mem).2 ⟨violates_first, text, said, rfl⟩
    rw [Builtin.entries_eq ok, Ledger.filter_shape_addAll, List.find?_filterMap]
    simp only [reports] at found
    rw [found, Option.bind_some, reported]
    rfl

/-- What a rule contributes with the shape of a violation is the message about the first such
violation. -/
theorem filter_shape_contribution (ok : (b.rule.detect context tree .empty).failure = none) {s : Site}
    (visited : s ∈ b.check.visits tree) (violates : b.check.Violates s)
    (on : Suppression.disabledB suppressions s.node.start.line b.name = false) :
    ∃ first text, IsFirstOfShape b tree (shape s.node) first ∧ b.check.Says first text ∧
      (contribution config context suppressions tree b.rule).filter (·.shape == shape s.node) =
        [messageAt config b first text] := by
  obtain ⟨first, text, isFirst, said, entry⟩ := filter_shape_entries ok visited violates
  refine ⟨first, text, isFirst, said, ?_⟩
  obtain ⟨-, -, -, -, same, -⟩ := isFirst
  have line : first.node.start.line = s.node.start.line := congrArg Shape.startLine same
  have kept : (!Suppression.disabledB suppressions (messageAt config b first text).position.line b.name) = true := by
    rw [show (messageAt config b first text).position.line = first.node.start.line from rfl, line, on]
    rfl
  -- the severity does not touch the shape, so the filter by shape goes in front
  have inward : ((b.rule.detect context tree .empty).ledger.entries.map (override config b.name)).filter
      (·.shape == shape s.node) = [messageAt config b first text] := by
    rw [List.filter_map, ← override_ofNode]
    simp only [Function.comp_def, override_shape]
    exact congrArg (List.map (override config b.name)) entry
  rw [contribution, List.filter_filter]
  simp only [Bool.and_comm (_ == shape s.node)]
  rw [← List.filter_filter, Rule.Builtin.rule_name, inward, List.filter_cons, if_pos kept]
  rfl

end Contribution

/-- **A lint run reports the violations.** Each message of a rule that is on sits at the start of a node
of the tree that violates the rule, carries its shape, and is on a line where the rule is not switched
off. Each violation on such a line has exactly one message with its shape, the one about the first
violation of this shape in the order of the rule's visits. There are no messages of rules that are off. -/
theorem lint_reports_violations {root : String} {registered : List Builtin} {config : Config} {path : String}
    {tree : Node} {report : FileReport} (once : (registered.map Builtin.name).Nodup)
    (ok : (ofBuiltins root registered config).lintTree path tree = .ok report) :
    (∀ b ∈ registered, config.enabledB b.name = true →
      (∀ m ∈ report.messages, m.rule = b.name →
        (∃ s ∈ b.check.visits tree, s.node ∈ tree.preorder ∧ b.check.Violates s ∧ m.position = s.node.start ∧
          m.shape = shape s.node) ∧
        Suppression.disabledB (Suppression.ofTree tree) m.position.line b.name = false) ∧
      (∀ s ∈ b.check.visits tree, b.check.Violates s →
        Suppression.disabledB (Suppression.ofTree tree) s.node.start.line b.name = false →
        ∃ first text, IsFirstOfShape b tree (shape s.node) first ∧ b.check.Says first text ∧
          report.messages.filter (fun m => m.rule == b.name && m.shape == shape s.node) =
            [messageAt config b first text])) ∧
    ∀ m ∈ report.messages, m.rule ∈ registered.map Builtin.name ∧ config.enabledB m.rule = true := by
  have works := (lintTree_ofBuiltins_eq_ok_iff.1 ok).1
  refine ⟨fun b mem enabled => ?_, ?_⟩
  · have works_b := works b (List.mem_filter.2 ⟨mem, enabled⟩)
    have messages_b := filter_rule_messages once ok mem
    rw [if_pos enabled] at messages_b
    constructor
    · intro m listed own
      have contributed : m ∈ report.messages.filter (·.rule == b.name) :=
        List.mem_filter.2 ⟨listed, beq_iff_eq.2 own⟩
      rw [messages_b, Detection.mem_sorted] at contributed
      obtain ⟨⟨s, visited, violates, text, -, rfl⟩, clear⟩ := mem_contribution works_b contributed
      exact ⟨⟨s, visited, Rule.Check.mem_preorder_of_visits visited, violates, rfl, rfl⟩, clear⟩
    · intro s visited violates clear
      obtain ⟨first, text, isFirst, said, one⟩ := filter_shape_contribution works_b visited violates clear
      refine ⟨first, text, isFirst, said, ?_⟩
      simp only [Bool.and_comm (_ == b.name)]
      rw [← List.filter_filter, messages_b, Detection.filter_sorted, one]
      exact List.mergeSort_singleton _
  · intro m listed
    rw [(lintTree_ofBuiltins_eq_ok_iff.1 ok).2, FileReport.ofMessages_messages, Detection.mem_sorted] at listed
    obtain ⟨b, on, contributed⟩ := List.mem_flatMap.1 listed
    obtain ⟨mem, enabled⟩ := List.mem_filter.1 on
    rw [Builtin.rule_of_mem_contribution (works b on) contributed]
    exact ⟨List.mem_map_of_mem mem, enabled⟩

/-- The second color is a violation, and its message is that about the first. -/
theorem lint_reports_violations_sample :
    (sampleRules.map Builtin.name).Nodup ∧
    (ofBuiltins "/p" sampleRules {}).lintTree "/p/a.scss.json" (.branch sampleInfo sampleChildren) =
      .ok ⟨"a.scss", [colorMessage, lengthMessage], 1, 1⟩ ∧
    ∃ first text, IsFirstOfShape ⟨.hexDigits, .error⟩ (.branch sampleInfo sampleChildren) ⟨"color", 3, 3, 2⟩ first ∧
      Rule.Check.hexDigits.Says first text ∧
      [colorMessage, lengthMessage].filter (fun m => m.rule == "no-invalid-hex" && m.shape == ⟨"color", 3, 3, 2⟩) =
        [messageAt {} ⟨.hexDigits, .error⟩ first text] := by
  have second : Site.alone (.leaf ⟨"color", .scss, ⟨3, 7⟩, ⟨3, 9⟩, []⟩ "cd") ∈
      Rule.Check.hexDigits.visits (.branch sampleInfo sampleChildren) := by
    refine List.mem_map_of_mem (List.mem_filter.2 ⟨?_, rfl⟩)
    exact Node.mem_preorder_of_child (.tail _ (.tail _ (.head _))) _ (Node.self_mem_preorder _)
  have violates : Rule.Check.hexDigits.Violates (.alone (.leaf ⟨"color", .scss, ⟨3, 7⟩, ⟨3, 9⟩, []⟩ "cd")) := by
    refine ⟨rfl, "cd", rfl, ?_⟩
    rw [← Text.isHexColor_iff]
    decide
  have clear : Suppression.disabledB (Suppression.ofTree (.branch sampleInfo sampleChildren)) 3 "no-invalid-hex" =
      false := by
    rw [suppressions_sample]
    rfl
  have reported := lint_reports_violations sampleRules_once lintTree_sample
  exact ⟨sampleRules_once, lintTree_sample,
    (reported.1 ⟨.hexDigits, .error⟩ (.tail _ (.head _)) rfl).2 _ second violates clear⟩

end SheetLint.Linter
