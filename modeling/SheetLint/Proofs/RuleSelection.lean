import SheetLint.Proofs.BuiltinOutcome

/-!
# Choosing rules

Three ways to see only some of the rules: to select them before the run, to
switch the others off in the configuration, and to pick their messages from the
full report. They agree, since a rule starts from a ledger of its own and sorting
is stable: what a rule reports does not depend on the rules that run with it.
-/

namespace SheetLint
set_option autoImplicit false

namespace Config

/-- Settings with a rule switched off, in the order of the names; its options stay. -/
def turnOff (rule : String) : List (String × Setting) → List (String × Setting)
  | [] => [(rule, {})]
  | (name, s) :: rest =>
    if name = rule then (name, { s with severity := none }) :: rest
    else if rule < name then (rule, {}) :: (name, s) :: rest
    else (name, s) :: turnOff rule rest

/-- The configuration with rules switched off. -/
def switchOff (c : Config) (rules : List String) : Config :=
  { c with rules := rules.foldr turnOff c.rules }

theorem lookup_turnOff_self (rule : String) (settings : List (String × Setting)) :
    ∃ options, (turnOff rule settings).lookup rule = some ⟨none, options⟩ := by
  induction settings with
  | nil => exact ⟨[], by simp [turnOff]⟩
  | cons entry rest ih =>
    obtain ⟨name, s⟩ := entry
    obtain ⟨options, found⟩ := ih
    rw [turnOff]
    split
    · rename_i same
      exact ⟨s.options, by simp [same]⟩
    · rename_i differs
      split
      · exact ⟨[], by simp⟩
      · refine ⟨options, ?_⟩
        rw [List.lookup_cons, beq_false_of_ne (Ne.symm differs), found]

theorem lookup_turnOff_of_ne {rule other : String} (differs : other ≠ rule) (settings : List (String × Setting)) :
    (turnOff rule settings).lookup other = settings.lookup other := by
  induction settings with
  | nil => simp [turnOff, differs]
  | cons entry rest ih =>
    obtain ⟨name, s⟩ := entry
    rw [turnOff]
    split
    · rename_i same
      rw [List.lookup_cons, List.lookup_cons, same, beq_false_of_ne differs]
    · split
      · rw [List.lookup_cons, beq_false_of_ne differs]
      · rw [List.lookup_cons, List.lookup_cons, ih]

section SwitchOff

variable {c : Config} {rules : List String} {rule : String}

theorem setting?_switchOff_of_mem (mem : rule ∈ rules) :
    ∃ options, (c.switchOff rules).setting? rule = some ⟨none, options⟩ := by
  induction rules with
  | nil => exact absurd mem List.not_mem_nil
  | cons first rest ih =>
    by_cases same : rule = first
    · rw [same]
      exact lookup_turnOff_self first _
    · obtain ⟨options, found⟩ := ih ((List.mem_cons.1 mem).resolve_left same)
      exact ⟨options, (lookup_turnOff_of_ne same _).trans found⟩

theorem setting?_switchOff_of_not_mem (other : rule ∉ rules) :
    (c.switchOff rules).setting? rule = c.setting? rule := by
  induction rules with
  | nil => rfl
  | cons first rest ih =>
    rw [List.mem_cons, not_or] at other
    exact (lookup_turnOff_of_ne other.1 _).trans (ih other.2)

theorem enabledB_switchOff : (c.switchOff rules).enabledB rule = (c.enabledB rule && !rules.contains rule) := by
  by_cases mem : rule ∈ rules
  · obtain ⟨options, found⟩ := @setting?_switchOff_of_mem c rules rule mem
    simp [enabledB, found, Setting.enabledB, mem]
  · simp [enabledB, setting?_switchOff_of_not_mem mem, mem]

theorem severity?_switchOff_of_not_mem (other : rule ∉ rules) :
    (c.switchOff rules).severity? rule = c.severity? rule := by
  rw [severity?, setting?_switchOff_of_not_mem other, severity?]

end SwitchOff
end Config

namespace Linter
open Rule (Builtin)

/-- A run looks only at the severities of the rules that it applies. -/
theorem messagesOfAll_congr {c c' : Config} {context : FileContext} {suppressions : Suppression} {tree : Node}
    {rules : List Rule} (same : ∀ r ∈ rules, c.severity? r.name = c'.severity? r.name) :
    messagesOfAll c context suppressions tree rules = messagesOfAll c' context suppressions tree rules := by
  induction rules with
  | nil => rfl
  | cons r rest ih =>
    obtain ⟨first, later⟩ := List.forall_mem_cons.1 same
    have adjusted : adjust c r.name = adjust c' r.name := by
      funext d
      rw [adjust, first, adjust]
    rw [messagesOfAll, messagesOfAll, ih later, messagesOf, messagesOf, adjusted]

/-- Two runs over the same rules, with the same severities for them, have one result. -/
theorem lintTree_congr {l l' : Linter} (root : l.root = l'.root) (rules : l.enabledRules = l'.enabledRules)
    (same : ∀ r ∈ l'.enabledRules, l.config.severity? r.name = l'.config.severity? r.name)
    (path : String) (tree : Node) : l.lintTree path tree = l'.lintTree path tree := by
  simp only [lintTree, root, rules, messagesOfAll_congr same]

section Selection

variable {registered : List Builtin}

/-- The linter with the rules that a selection lists. -/
def selecting (l : Linter) (selection : List String) : Linter := { l with rules := Rule.select l.rules selection }

/-- The built-in rules that a selection lists. -/
def chosen (registered : List Builtin) (selection : List String) : List Builtin :=
  registered.filter fun b => Rule.selectedB selection b.rule

/-- The names of the rules that a selection leaves out. -/
def leftOut (registered : List Builtin) (selection : List String) : List String :=
  (registered.filter fun b => !Rule.selectedB selection b.rule).map Builtin.name

theorem select_eq_chosen (registered : List Builtin) (selection : List String) :
    Rule.select (registered.map Builtin.rule) selection = (chosen registered selection).map Builtin.rule := by
  rw [Rule.select, List.filter_map, chosen]
  rfl

theorem selecting_ofBuiltins (root : String) (config : Config) (selection : List String) :
    (ofBuiltins root registered config).selecting selection =
      ofBuiltins root (chosen registered selection) config := by
  rw [selecting, ofBuiltins, select_eq_chosen]
  rfl

theorem chosen_once (once : (registered.map Builtin.name).Nodup) (selection : List String) :
    ((chosen registered selection).map Builtin.name).Nodup :=
  once.sublist (List.filter_sublist.map _)

/-- Where each rule is registered at most once, a name is that of a selected rule only. -/
theorem mem_names_filter_iff (once : (registered.map Builtin.name).Nodup) (p : Builtin → Bool) {b : Builtin}
    (mem : b ∈ registered) : b.name ∈ (registered.filter p).map Builtin.name ↔ p b = true := by
  constructor
  · intro named
    obtain ⟨a, kept, same⟩ := List.mem_map.1 named
    obtain ⟨mem_a, holds⟩ := List.mem_filter.1 kept
    have alone : a ∈ registered.filter fun a => a.name == b.name := List.mem_filter.2 ⟨mem_a, beq_iff_eq.2 same⟩
    rw [filter_name_eq once mem] at alone
    rw [← List.mem_singleton.1 alone]
    exact holds
  · intro holds
    exact List.mem_map_of_mem (List.mem_filter.2 ⟨mem, holds⟩)

theorem contains_chosen (once : (registered.map Builtin.name).Nodup) (selection : List String) {b : Builtin}
    (mem : b ∈ registered) :
    (((chosen registered selection).map Builtin.rule).map Rule.name).contains b.name =
      Rule.selectedB selection b.rule := by
  rw [Bool.eq_iff_iff, List.contains_iff_mem, List.map_map]
  exact mem_names_filter_iff once _ mem

theorem not_contains_leftOut (once : (registered.map Builtin.name).Nodup) (selection : List String) {b : Builtin}
    (mem : b ∈ registered) :
    (!(leftOut registered selection).contains b.name) = Rule.selectedB selection b.rule := by
  rw [Bool.not_eq_eq_eq_not, Bool.eq_iff_iff, List.contains_iff_mem]
  exact mem_names_filter_iff once _ mem

end Selection

/-- **Selecting rules, switching rules off and filtering the report agree.** A run over the rules that a
selection lists has the result of the run over all, with those that the selection leaves out switched
off in the configuration. Where the run over all rules goes through, so does that over the selected ones,
and its messages are those of the selected rules in the full report. Two selections of which both runs
go through have the same messages of a rule that they both list. -/
theorem lintTree_select_agrees {registered : List Builtin} (once : (registered.map Builtin.name).Nodup)
    (root : String) (config : Config) (selection : List String) (path : String) (tree : Node) :
    ((ofBuiltins root registered config).selecting selection).lintTree path tree =
      (ofBuiltins root registered (config.switchOff (leftOut registered selection))).lintTree path tree ∧
    (∀ report, (ofBuiltins root registered config).lintTree path tree = .ok report →
      ∃ part, ((ofBuiltins root registered config).selecting selection).lintTree path tree = .ok part ∧
        part.path = report.path ∧
        part.messages = report.messages.filter fun m =>
          ((Rule.select (registered.map Builtin.rule) selection).map Rule.name).contains m.rule) ∧
    ∀ selection' part part',
      ((ofBuiltins root registered config).selecting selection).lintTree path tree = .ok part →
      ((ofBuiltins root registered config).selecting selection').lintTree path tree = .ok part' →
      ∀ b ∈ registered, Rule.selectedB selection b.rule = true → Rule.selectedB selection' b.rule = true →
        part.messages.filter (·.rule == b.name) = part'.messages.filter (·.rule == b.name) := by
  simp only [selecting_ofBuiltins, select_eq_chosen]
  refine ⟨?_, ?_, ?_⟩
  · apply lintTree_congr
    · rfl
    · rw [enabledRules_ofBuiltins, enabledRules_ofBuiltins, chosen, List.filter_filter]
      refine congrArg (List.map Builtin.rule) (List.filter_congr fun b mem => ?_)
      rw [Config.enabledB_switchOff, not_contains_leftOut once selection mem]
    · intro r on
      rw [enabledRules_ofBuiltins] at on
      obtain ⟨b, kept, rfl⟩ := List.mem_map.1 on
      obtain ⟨-, enabled⟩ := List.mem_filter.1 kept
      rw [Config.enabledB_switchOff, Bool.and_eq_true] at enabled
      exact (Config.severity?_switchOff_of_not_mem (by simpa using enabled.2)).symm
  · intro report ok
    obtain ⟨works, rfl⟩ := lintTree_ofBuiltins_eq_ok_iff.1 ok
    have both : (chosen registered selection).filter (fun b => config.enabledB b.name) =
        (registered.filter fun b => config.enabledB b.name).filter fun b =>
          (((chosen registered selection).map Builtin.rule).map Rule.name).contains b.name := by
      rw [List.filter_comm]
      refine congrArg (List.filter fun b : Builtin => config.enabledB b.name) (List.filter_congr fun b mem => ?_)
      exact (contains_chosen once selection mem).symm
    refine ⟨_, lintTree_ofBuiltins_eq_ok_iff.2 ⟨fun b on => works b ?_, rfl⟩, rfl, ?_⟩
    · rw [both] at on
      exact (List.mem_filter.1 on).1
    · rw [FileReport.ofMessages_messages, FileReport.ofMessages_messages, Detection.filter_sorted, both,
        filter_rule_contributions _ works]
  · intro selection' part part' ok ok' b mem listed listed'
    rw [filter_rule_messages (chosen_once once selection) ok (List.mem_filter.2 ⟨mem, listed⟩),
      filter_rule_messages (chosen_once once selection') ok' (List.mem_filter.2 ⟨mem, listed'⟩)]

/-- A rule is selected by its code, in any letter case. -/
theorem lintTree_select_agrees_sample :
    (sampleRules.map Builtin.name).Nodup ∧
    (ofBuiltins "/p" sampleRules {}).lintTree "/p/a.scss.json" (.branch sampleInfo sampleChildren) =
      .ok ⟨"a.scss", [colorMessage, lengthMessage], 1, 1⟩ ∧
    ∃ part, ((ofBuiltins "/p" sampleRules {}).selecting ["sl004"]).lintTree "/p/a.scss.json"
        (.branch sampleInfo sampleChildren) = .ok part ∧
      part.path = "a.scss" ∧ part.messages = [lengthMessage] := by
  have agree := lintTree_select_agrees sampleRules_once "/p" {} ["sl004"] "/p/a.scss.json"
    (.branch sampleInfo sampleChildren)
  obtain ⟨part, selected, path, messages⟩ := agree.2.1 _ lintTree_sample
  have kept : ([colorMessage, lengthMessage].filter fun m =>
      ((Rule.select (sampleRules.map Builtin.rule) ["sl004"]).map Rule.name).contains m.rule) = [lengthMessage] := by
    decide +kernel
  exact ⟨sampleRules_once, lintTree_sample, part, selected, path, messages.trans kept⟩

end Linter
end SheetLint
