import SheetLint.Linter
import SheetLint.Proofs.PositionOrder
import SheetLint.Proofs.RuleOutcome

/-!
# What a run of the linter reports

A run applies the rules that are on one after the other, each to an empty ledger,
and fails where the first of them fails. Otherwise the report is what the rules
contribute, in order of position. `messagesOfAll_eq_error_iff` and
`messagesOfAll_eq_ok_iff` say this of the loop over the rules, and
`lintTree_error_or_stable_report` of a run, for rules and configurations of any
kind.
-/

namespace SheetLint.Linter
set_option autoImplicit false

/-- The detection with the severity that the configuration gives a rule, if it gives one. -/
def override (config : Config) (rule : String) (d : Detection) : Detection :=
  match config.severity? rule with
  | some severity => { d with severity := severity }
  | none => d

/-- What a rule contributes to a report: the entries it leaves in an empty ledger, with the severity
that is configured, less those on lines where the rule is switched off. -/
def contribution (config : Config) (context : FileContext) (suppressions : Suppression) (tree : Node)
    (rule : Rule) : List Detection :=
  ((rule.detect context tree .empty).ledger.entries.map (override config rule.name)).filter fun d =>
    !Suppression.disabledB suppressions d.position.line rule.name

section Override

variable (config : Config) (rule : String) (d : Detection)

theorem adjust_eq_override : adjust config rule d = override config rule d := by
  cases given : config.severity? rule <;> simp [adjust, override, given]

@[simp] theorem override_rule : (override config rule d).rule = d.rule := by
  rw [← adjust_eq_override]; rfl

@[simp] theorem override_shape : (override config rule d).shape = d.shape := by
  rw [← adjust_eq_override]; rfl

end Override

section Loop

variable {config : Config} {context : FileContext} {suppressions : Suppression} {tree : Node}

theorem messagesOf_of_failure {rule : Rule} {cause : Malformed}
    (fails : (rule.detect context tree .empty).failure = some cause) :
    messagesOf config context suppressions tree rule = .error ⟨rule.name, context.relativePath, cause⟩ := by
  simp [messagesOf, fails]

theorem messagesOf_of_ok {rule : Rule} (works : (rule.detect context tree .empty).failure = none) :
    messagesOf config context suppressions tree rule =
      .ok (contribution config context suppressions tree rule) := by
  simp [messagesOf, works, contribution, funext (adjust_eq_override config rule.name)]

/-- The loop fails exactly where the first rule fails, and says so. -/
theorem messagesOfAll_eq_error_iff {rules : List Rule} {f : RuleFailure} :
    messagesOfAll config context suppressions tree rules = .error f ↔
      ∃ before r after cause, rules = before ++ r :: after ∧
        (∀ q ∈ before, (q.detect context tree .empty).failure = none) ∧
        (r.detect context tree .empty).failure = some cause ∧
        f = ⟨r.name, context.relativePath, cause⟩ := by
  induction rules with
  | nil => simp [messagesOfAll]
  | cons rule rest ih =>
    rw [messagesOfAll]
    cases first : (rule.detect context tree .empty).failure with
    | some cause =>
      simp only [messagesOf_of_failure first, Except.error.injEq]
      constructor
      · rintro rfl
        exact ⟨[], rule, rest, cause, rfl, by simp, first, rfl⟩
      · rintro ⟨before, r, after, cause', split, works, fails, rfl⟩
        cases before with
        | nil =>
          obtain ⟨rfl, -⟩ := List.cons.inj split
          rw [Option.some.inj (first.symm.trans fails)]
        | cons q before =>
          obtain ⟨rfl, -⟩ := List.cons.inj split
          have ok := works rule List.mem_cons_self
          exact absurd (first.symm.trans ok) (Option.some_ne_none cause)
    | none =>
      simp only [messagesOf_of_ok first]
      have later : (∃ before r after cause, rule :: rest = before ++ r :: after ∧
            (∀ q ∈ before, (q.detect context tree .empty).failure = none) ∧
            (r.detect context tree .empty).failure = some cause ∧ f = ⟨r.name, context.relativePath, cause⟩) ↔
          messagesOfAll config context suppressions tree rest = .error f := by
        rw [ih]
        constructor
        · rintro ⟨before, r, after, cause, split, works, fails, rfl⟩
          cases before with
          | nil =>
            obtain ⟨rfl, -⟩ := List.cons.inj split
            exact absurd (fails.symm.trans first) (Option.some_ne_none cause)
          | cons q before =>
            obtain ⟨rfl, tail⟩ := List.cons.inj split
            exact ⟨before, r, after, cause, tail, fun p mem => works p (List.mem_cons_of_mem _ mem), fails, rfl⟩
        · rintro ⟨before, r, after, cause, rfl, works, fails, rfl⟩
          refine ⟨rule :: before, r, after, cause, rfl, fun q mem => ?_, fails, rfl⟩
          rcases List.mem_cons.1 mem with rfl | mem
          · exact first
          · exact works q mem
      rw [later]
      cases messagesOfAll config context suppressions tree rest <;> simp

/-- The loop goes through exactly when no rule fails, and gathers what the rules contribute. -/
theorem messagesOfAll_eq_ok_iff {rules : List Rule} {messages : List Detection} :
    messagesOfAll config context suppressions tree rules = .ok messages ↔
      (∀ r ∈ rules, (r.detect context tree .empty).failure = none) ∧
        messages = rules.flatMap (contribution config context suppressions tree) := by
  induction rules generalizing messages with
  | nil => simp [messagesOfAll, eq_comm]
  | cons rule rest ih =>
    rw [messagesOfAll]
    cases first : (rule.detect context tree .empty).failure with
    | some cause => simp [messagesOf_of_failure first, first]
    | none =>
      simp only [messagesOf_of_ok first, List.forall_mem_cons, first, true_and, List.flatMap_cons]
      cases more : messagesOfAll config context suppressions tree rest with
      | error f =>
        simp only [reduceCtorEq, false_iff]
        rintro ⟨works, -⟩
        exact absurd (more.symm.trans (ih.2 ⟨works, rfl⟩)) (by simp)
      | ok gathered =>
        obtain ⟨works, rfl⟩ := ih.1 more
        simp only [Except.ok.injEq]
        exact ⟨fun same => ⟨works, same.symm⟩, fun h => h.2.symm⟩

end Loop

section Run

variable {l : Linter} {path : String} {tree : Node}

/-- The outcome of a rule of the run. -/
def outcome (l : Linter) (path : String) (tree : Node) (rule : Rule) : Outcome :=
  rule.detect (FileContext.of path l.root tree) tree .empty

/-- What a rule of the run contributes to its report. -/
def share (l : Linter) (path : String) (tree : Node) (rule : Rule) : List Detection :=
  contribution l.config (FileContext.of path l.root tree) (Suppression.ofTree tree) tree rule

theorem mem_enabledRules {r : Rule} : r ∈ l.enabledRules ↔ r ∈ l.rules ∧ l.config.enabledB r.name = true := by
  simp [enabledRules]

theorem lintTree_eq_error_iff {f : RuleFailure} :
    l.lintTree path tree = .error f ↔
      ∃ before r after cause, l.enabledRules = before ++ r :: after ∧
        (∀ q ∈ before, (l.outcome path tree q).failure = none) ∧
        (l.outcome path tree r).failure = some cause ∧
        f = ⟨r.name, (FileContext.of path l.root tree).relativePath, cause⟩ := by
  refine Iff.trans ?_ (@messagesOfAll_eq_error_iff l.config _ (Suppression.ofTree tree) tree _ f)
  simp only [lintTree]
  cases messagesOfAll l.config (FileContext.of path l.root tree) (Suppression.ofTree tree) tree l.enabledRules <;>
    simp

theorem lintTree_eq_ok_iff {report : FileReport} :
    l.lintTree path tree = .ok report ↔
      (∀ r ∈ l.enabledRules, (l.outcome path tree r).failure = none) ∧
        report = .ofMessages (FileContext.of path l.root tree).relativePath
          (l.enabledRules.flatMap (l.share path tree)) := by
  simp only [lintTree]
  cases run : messagesOfAll l.config (FileContext.of path l.root tree) (Suppression.ofTree tree) tree l.enabledRules with
  | error f =>
    simp only [reduceCtorEq, false_iff]
    rintro ⟨works, -⟩
    exact absurd (run.symm.trans (messagesOfAll_eq_ok_iff.2 ⟨works, rfl⟩)) (by simp)
  | ok messages =>
    obtain ⟨works, rfl⟩ := messagesOfAll_eq_ok_iff.1 run
    simp only [Except.ok.injEq]
    exact ⟨fun same => ⟨works, same.symm⟩, fun h => h.2.symm⟩

/-- The first rule that is on and has a property, among those that are on and among all. -/
theorem first_enabled_iff {P Q : Rule → Prop} :
    (∃ before r after, l.enabledRules = before ++ r :: after ∧ (∀ q ∈ before, P q) ∧ Q r) ↔
      ∃ before r after, l.rules = before ++ r :: after ∧ l.config.enabledB r.name = true ∧
        (∀ q ∈ before, l.config.enabledB q.name = true → P q) ∧ Q r := by
  constructor
  · rintro ⟨before, r, after, split, holds, h⟩
    obtain ⟨front, back, rfl_rules, rfl, rest⟩ := List.filter_eq_append_iff.1 split
    obtain ⟨skipped, later, rfl, off, on, -⟩ := List.filter_eq_cons_iff.1 rest
    refine ⟨front ++ skipped, r, later, by rw [rfl_rules, List.append_assoc], on, fun q mem enabled => ?_, h⟩
    rcases List.mem_append.1 mem with mem | mem
    · exact holds q (List.mem_filter.2 ⟨mem, enabled⟩)
    · exact absurd enabled (off q mem)
  · rintro ⟨before, r, after, split, on, holds, h⟩
    refine ⟨before.filter fun q => l.config.enabledB q.name, r, after.filter fun q => l.config.enabledB q.name,
      ?_, fun q mem => ?_, h⟩
    · rw [enabledRules, split, List.filter_append, List.filter_cons, if_pos on]
    · obtain ⟨mem, enabled⟩ := List.mem_filter.1 mem
      exact holds q mem enabled

/-- **A run of the linter.** It fails exactly when a rule that is on fails, with the first such rule
in order of registration. Otherwise its report is the one whose messages are what the rules that are on
contribute, rule by rule, put in order of position without changing the order at one position, and
whose counts are those of its messages. -/
theorem lintTree_error_or_stable_report (l : Linter) (path : String) (tree : Node) :
    ((∃ f, l.lintTree path tree = .error f) ↔
      ∃ r ∈ l.rules, l.config.enabledB r.name = true ∧ (l.outcome path tree r).failure ≠ none) ∧
    (∀ f, l.lintTree path tree = .error f ↔
      ∃ before r after cause, l.rules = before ++ r :: after ∧ l.config.enabledB r.name = true ∧
        (∀ q ∈ before, l.config.enabledB q.name = true → (l.outcome path tree q).failure = none) ∧
        (l.outcome path tree r).failure = some cause ∧
        f = ⟨r.name, (FileContext.of path l.root tree).relativePath, cause⟩) ∧
    ∀ report, l.lintTree path tree = .ok report ↔
      (∀ r ∈ l.rules, l.config.enabledB r.name = true → (l.outcome path tree r).failure = none) ∧
      report.path = (FileContext.of path l.root tree).relativePath ∧
      Detection.StableOrder ((l.rules.filter fun r => l.config.enabledB r.name).flatMap (l.share path tree))
        report.messages ∧
      report.errorCount = report.messages.countP (·.severity == .error) ∧
      report.warningCount = report.messages.countP (·.severity != .error) := by
  have error (f : RuleFailure) : l.lintTree path tree = .error f ↔
      ∃ before r after cause, l.rules = before ++ r :: after ∧ l.config.enabledB r.name = true ∧
        (∀ q ∈ before, l.config.enabledB q.name = true → (l.outcome path tree q).failure = none) ∧
        (l.outcome path tree r).failure = some cause ∧
        f = ⟨r.name, (FileContext.of path l.root tree).relativePath, cause⟩ := by
    rw [lintTree_eq_error_iff]
    simp only [exists_and_left, first_enabled_iff]
  have ok (report : FileReport) := @lintTree_eq_ok_iff l path tree report
  simp only [mem_enabledRules, and_imp, FileReport.eq_ofMessages_iff] at ok
  refine ⟨⟨?_, ?_⟩, error, ok⟩
  · rintro ⟨f, failed⟩
    obtain ⟨before, r, after, cause, split, on, -, fails, -⟩ := (error f).1 failed
    exact ⟨r, by simp [split], on, by simp [fails]⟩
  · rintro ⟨r, mem, on, fails⟩
    cases run : l.lintTree path tree with
    | error f => exact ⟨f, rfl⟩
    | ok report => exact absurd (((ok report).1 run).1 r mem on) fails

end Run
end SheetLint.Linter
