import SheetLint.Proofs.BuiltinOutcome

/-!
# The order in which rules are registered

Rules that are registered in another order contribute the same to a report, only one
after the other in another order. Sorting by position brings the contributions
together again, so all that the order of registration decides is which of two rules
comes first at a position where both report something. `attributed` keeps with each
message the rule that it comes from, which its text alone does not tell for rules of
any kind.
-/

namespace SheetLint.Linter
set_option autoImplicit false

/-- The messages of a run in their order, each with the rule that it comes from. -/
def attributed (l : Linter) (path : String) (tree : Node) : List (Rule × Detection) :=
  sortedBy Position.leB (fun m => m.2.position) (l.enabledRules.flatMap fun r => (l.share path tree r).map (r, ·))

/-- What things contribute does not depend on their order where no two different things contribute. -/
theorem flatMap_eq_of_perm {α β : Type} {f : α → List β} {xs ys : List α} (permuted : xs.Perm ys)
    (alone : ∀ a ∈ xs, ∀ b ∈ xs, a ≠ b → f a = [] ∨ f b = []) : xs.flatMap f = ys.flatMap f := by
  induction permuted with
  | nil => rfl
  | cons x _ ih =>
    rw [List.flatMap_cons, List.flatMap_cons, ih]
    intro a mem b mem'
    exact alone a (List.mem_cons_of_mem x mem) b (List.mem_cons_of_mem x mem')
  | swap x y rest =>
    simp only [List.flatMap_cons]
    by_cases same : y = x
    · rw [same]
    · rcases alone y (.head _) x (.tail _ (.head _)) same with none | none
      · simp [none]
      · simp [none]
  | trans first second ih ih' =>
    refine (ih alone).trans (ih' fun a mem b mem' => ?_)
    exact alone a (first.mem_iff.2 mem) b (first.mem_iff.2 mem')

section Permuted

variable {l : Linter} {rules : List Rule} {path : String} {tree : Node}

theorem enabledRules_perm (permuted : l.rules.Perm rules) :
    l.enabledRules.Perm { l with rules := rules }.enabledRules :=
  permuted.filter _

/-- Whether a run goes through is told by the rules that are on. -/
theorem exists_report_iff :
    (∃ report, l.lintTree path tree = .ok report) ↔
      ∀ r ∈ l.enabledRules, (l.outcome path tree r).failure = none := by
  constructor
  · rintro ⟨report, ok⟩
    exact (lintTree_eq_ok_iff.1 ok).1
  · intro works
    exact ⟨_, lintTree_eq_ok_iff.2 ⟨works, rfl⟩⟩

/-- The messages are those that are attributed to rules. -/
theorem map_attributed : (l.attributed path tree).map Prod.snd =
    Detection.sorted (l.enabledRules.flatMap (l.share path tree)) := by
  have forgotten : (l.enabledRules.flatMap fun r => (l.share path tree r).map (r, ·)).map Prod.snd =
      l.enabledRules.flatMap (l.share path tree) := by
    rw [List.map_flatMap]
    simp only [List.map_map, Function.comp_def, List.map_id']
  rw [← forgotten]
  exact List.map_mergeSort fun _ _ _ _ => rfl

open Classical in
/-- What is attributed to a rule. -/
theorem filter_attributed_perm (permuted : l.rules.Perm rules) (rule : Rule) :
    (l.attributed path tree).filter (fun m => decide (m.1 = rule)) =
      ({ l with rules := rules }.attributed path tree).filter fun m => decide (m.1 = rule) := by
  rw [attributed, attributed, Position.keyOrder.filter_sortedBy, Position.keyOrder.filter_sortedBy,
    List.filter_flatMap, List.filter_flatMap]
  refine congrArg (sortedBy _ _) (flatMap_eq_of_perm (enabledRules_perm permuted) ?_)
  have other {r : Rule} (differs : r ≠ rule) :
      ((l.share path tree r).map (r, ·)).filter (fun m => decide (m.1 = rule)) = [] := by
    simp [List.filter_map, Function.comp_def, differs]
  intro r _ r' _ differs
  by_cases same : r = rule
  · exact Or.inr (other fun same' => differs (same.trans same'.symm))
  · exact Or.inl (other same)

/-- The contributions that meet a condition, where no two different rules make such contributions. -/
theorem filter_contributions_perm (permuted : l.rules.Perm rules) {q : Detection → Bool}
    (alone : ∀ r ∈ l.enabledRules, ∀ r' ∈ l.enabledRules, r ≠ r' →
      ∀ d ∈ l.share path tree r, ∀ d' ∈ l.share path tree r', ¬ (q d = true ∧ q d' = true)) :
    (l.enabledRules.flatMap (l.share path tree)).filter q =
      ({ l with rules := rules }.enabledRules.flatMap (l.share path tree)).filter q := by
  rw [List.filter_flatMap, List.filter_flatMap]
  refine flatMap_eq_of_perm (enabledRules_perm permuted) fun r mem r' mem' differs => ?_
  simp only [List.filter_eq_nil_iff, or_iff_not_imp_left, not_forall, not_not]
  rintro ⟨d, listed, holds⟩ d' listed' holds'
  exact alone r mem r' mem' differs d listed d' listed' ⟨holds, holds'⟩

end Permuted

open Classical in
/-- **The order of registration only breaks ties.** Let the rules of a run be registered in another order.
The run goes through in both orders or in none. Where it does, the reports have the same positions in the
same order, the same counts and the same messages up to their order. The messages of each rule are the same
in the same order: those that come from it, and those under its name where no other rule reports under that
name. If no two rules report at one position, the messages are the same in the same order. -/
theorem lintTree_of_perm (l : Linter) {rules : List Rule} (permuted : l.rules.Perm rules) (path : String)
    (tree : Node) :
    ((∃ report, l.lintTree path tree = .ok report) ↔
      ∃ report, { l with rules := rules }.lintTree path tree = .ok report) ∧
    ∀ report report', l.lintTree path tree = .ok report → { l with rules := rules }.lintTree path tree = .ok report' →
      report.path = report'.path ∧
      report.messages.map Detection.position = report'.messages.map Detection.position ∧
      report.errorCount = report'.errorCount ∧ report.warningCount = report'.warningCount ∧
      report.messages.Perm report'.messages ∧
      (report.messages = (l.attributed path tree).map Prod.snd ∧
        report'.messages = ({ l with rules := rules }.attributed path tree).map Prod.snd ∧
        ∀ rule, (l.attributed path tree).filter (fun m => decide (m.1 = rule)) =
          ({ l with rules := rules }.attributed path tree).filter fun m => decide (m.1 = rule)) ∧
      (∀ name, (∀ r ∈ l.enabledRules, ∀ r' ∈ l.enabledRules, r ≠ r' →
          ∀ d ∈ l.share path tree r, ∀ d' ∈ l.share path tree r', ¬ (d.rule = name ∧ d'.rule = name)) →
        report.messages.filter (·.rule == name) = report'.messages.filter (·.rule == name)) ∧
      ((∀ r ∈ l.enabledRules, ∀ r' ∈ l.enabledRules, r ≠ r' →
          ∀ d ∈ l.share path tree r, ∀ d' ∈ l.share path tree r', d.position ≠ d'.position) →
        report.messages = report'.messages) := by
  refine ⟨?_, fun report report' ok ok' => ?_⟩
  · rw [exists_report_iff, exists_report_iff]
    exact forall_congr' fun r => imp_congr_left (enabledRules_perm permuted).mem_iff
  obtain ⟨-, told⟩ := lintTree_eq_ok_iff.1 ok
  obtain ⟨-, told'⟩ := lintTree_eq_ok_iff.1 ok'
  obtain ⟨path_eq, order, errors, warnings⟩ := FileReport.eq_ofMessages_iff.1 told
  obtain ⟨path_eq', order', errors', warnings'⟩ := FileReport.eq_ofMessages_iff.1 told'
  have same : report.messages.Perm report'.messages :=
    (order.permutes.trans ((enabledRules_perm permuted).flatMap_right _)).trans order'.permutes.symm
  refine ⟨path_eq.trans path_eq'.symm, ?_, ?_, ?_, same, ⟨?_, ?_, filter_attributed_perm permuted⟩, ?_, ?_⟩
  · exact (same.map _).eq_of_pairwise (fun _ _ _ _ => Position.Le.antisymm)
      (List.pairwise_map.2 order.ascending) (List.pairwise_map.2 order'.ascending)
  · rw [errors, errors', same.countP_eq]
  · rw [warnings, warnings', same.countP_eq]
  · rw [map_attributed, told, FileReport.ofMessages_messages]
  · rw [map_attributed, told', FileReport.ofMessages_messages]
  · intro name alone
    rw [told, told', FileReport.ofMessages_messages, FileReport.ofMessages_messages, Detection.filter_sorted,
      Detection.filter_sorted]
    refine congrArg Detection.sorted (filter_contributions_perm permuted fun r mem r' mem' differs d listed d' listed' => ?_)
    simp only [beq_iff_eq]
    exact alone r mem r' mem' differs d listed d' listed'
  · intro apart
    refine Detection.eq_of_ascending same order.ascending order'.ascending fun p => ?_
    rw [order.stable, order'.stable]
    refine filter_contributions_perm permuted fun r mem r' mem' differs d listed d' listed' => ?_
    simp only [beq_iff_eq]
    rintro ⟨at_p, at_p'⟩
    exact apart r mem r' mem' differs d listed d' listed' (at_p.trans at_p'.symm)

theorem share_sample :
    (ofBuiltins "/p" sampleRules {}).share "/p/a.scss.json" (.branch sampleInfo sampleChildren)
      (⟨.zeroUnit, .warning⟩ : Rule.Builtin).rule = [lengthMessage] ∧
    (ofBuiltins "/p" sampleRules {}).share "/p/a.scss.json" (.branch sampleInfo sampleChildren)
      (⟨.hexDigits, .error⟩ : Rule.Builtin).rule = [colorMessage] := by
  simp only [share, contribution, suppressions_sample, Rule.Builtin.detect_eq]
  decide +kernel

/-- The two rules report at different positions, so the other order gives the same messages. -/
theorem lintTree_of_perm_sample :
    (sampleRules.map Rule.Builtin.rule).Perm (sampleRules.map Rule.Builtin.rule).reverse ∧
    ∃ report, (⟨"/p", (sampleRules.map Rule.Builtin.rule).reverse, {}⟩ : Linter).lintTree "/p/a.scss.json"
        (.branch sampleInfo sampleChildren) = .ok report ∧
      report.messages = [colorMessage, lengthMessage] := by
  have permuted := (sampleRules.map Rule.Builtin.rule).reverse_perm.symm
  obtain ⟨both, agree⟩ := lintTree_of_perm (ofBuiltins "/p" sampleRules {}) permuted "/p/a.scss.json"
    (.branch sampleInfo sampleChildren)
  obtain ⟨report, ok⟩ := both.1 ⟨_, lintTree_sample⟩
  obtain ⟨-, -, -, -, -, -, -, equal⟩ := agree _ report lintTree_sample ok
  refine ⟨permuted, report, ok, (equal ?_).symm⟩
  obtain ⟨length, color⟩ := share_sample
  intro r on r' on' differs d listed d' listed'
  obtain ⟨mem, -⟩ := mem_enabledRules.1 on
  obtain ⟨mem', -⟩ := mem_enabledRules.1 on'
  simp only [ofBuiltins, sampleRules, List.map_cons, List.map_nil, List.mem_cons, List.not_mem_nil, or_false] at mem mem'
  rcases mem with rfl | rfl <;> rcases mem' with rfl | rfl
  · exact absurd rfl differs
  · rw [length, List.mem_singleton] at listed
    rw [color, List.mem_singleton] at listed'
    rw [listed, listed']
    decide
  · rw [color, List.mem_singleton] at listed
    rw [length, List.mem_singleton] at listed'
    rw [listed, listed']
    decide
  · exact absurd rfl differs

end SheetLint.Linter
