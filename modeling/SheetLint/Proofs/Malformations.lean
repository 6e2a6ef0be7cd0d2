import SheetLint.Proofs.BuiltinOutcome
import SheetLint.Proofs.LedgerRuns

/-!
# What stops a built-in rule

A built-in rule goes from site to site and writes its violations to the ledger it
was given, until a site has a node that it cannot make sense of. `Stops` says which
sites these are and `FailsOn` which trees have one. A site that does not stop the
rule adds its violation or nothing (`record_append`), so the ledger of a rule that
stopped is what the sites before that one make of it.
-/

namespace SheetLint
set_option autoImplicit false

theorem Node.text?_eq_none_iff {n : Node} : n.text? = none ↔ n.isBranch = true := by
  cases n <;> simp [text?, isBranch]

namespace Rule

namespace Check

/-- The site stops the check: it has a node that the check cannot make sense of, for a reason. -/
def Stops : Check → Site → Node → String → Prop
  | declarationOrder _, _, _, _ => False
  | hexDigits, s, n, problem =>
    s.node.kind = "color" ∧ s.node.isBranch = true ∧ n = s.node ∧ problem = "color has no text"
  | hexCase _, s, n, problem =>
    s.node.kind = "color" ∧ s.node.isBranch = true ∧ n = s.node ∧ problem = "color has no text"
  | zeroUnit, s, n, problem =>
    s.node.kind = "dimension" ∧ (∀ number, s.node.first? "number" = some number → number.isBranch = true) ∧
      n = s.node ∧ problem = "dimension has no number"
  | blockSpacing _, s, n, problem =>
    BlockSpacing.Separated s n ∧ n.isBranch = true ∧ problem = "space has no text"

/-- The tree has a node that the check cannot make sense of: a color with children; a dimension whose first
number is missing or has children; in a stylesheet or block, a space with children that stands between
something other than spaces and a ruleset. -/
def FailsOn : Check → Node → Prop
  | declarationOrder _, _ => False
  | hexDigits, tree => ∃ n ∈ tree.preorder, n.kind = "color" ∧ n.isBranch = true
  | hexCase _, tree => ∃ n ∈ tree.preorder, n.kind = "color" ∧ n.isBranch = true
  | zeroUnit, tree =>
    ∃ n ∈ tree.preorder, n.kind = "dimension" ∧
      ∀ number, n.first? "number" = some number → number.isBranch = true
  | blockSpacing _, tree =>
    ∃ parent ∈ tree.preorder, (parent.kind = "stylesheet" ∨ parent.kind = "block") ∧
      ∃ earlier space ruleset after, parent.children = earlier ++ space :: ruleset :: after ∧
        ruleset.kind = "ruleset" ∧ space.kind = "space" ∧ space.isBranch = true ∧ ∃ e ∈ earlier, e.kind ≠ "space"

end Check

theorem DeclarationOrder.findingAt_ne_malformed {policy : Order.Policy} {s : Site} {n : Node} {problem : String} :
    findingAt policy s ≠ some (.malformed n problem) := by
  unfold findingAt
  split
  · split <;> simp
  · simp

/-- A check that reads a text first finds something malformed exactly where there is none to read. -/
theorem unread_eq_malformed_iff {found : Option String} {node n : Node} {said problem : String}
    {rest : String → Option Finding} (reads : ∀ text, rest text ≠ some (.malformed n problem)) :
    (match found with
      | none => some (.malformed node said)
      | some text => rest text) = some (.malformed n problem) ↔ found = none ∧ n = node ∧ problem = said := by
  cases found with
  | none => simp [eq_comm]
  | some text => simp [reads text]

theorem HexDigits.checkColor_eq_malformed_iff {color n : Node} {problem : String} :
    checkColor color = some (.malformed n problem) ↔
      color.isBranch = true ∧ n = color ∧ problem = "color has no text" := by
  rw [← Node.text?_eq_none_iff]
  refine unread_eq_malformed_iff fun hex => ?_
  split <;> simp

theorem HexCase.checkColor_eq_malformed_iff {style : Style} {color n : Node} {problem : String} :
    checkColor style color = some (.malformed n problem) ↔
      color.isBranch = true ∧ n = color ∧ problem = "color has no text" := by
  rw [← Node.text?_eq_none_iff]
  refine unread_eq_malformed_iff fun hex => ?_
  split <;> simp

theorem ZeroUnit.checkDimension_eq_malformed_iff {dimension n : Node} {problem : String} :
    checkDimension dimension = some (.malformed n problem) ↔
      (∀ number, dimension.first? "number" = some number → number.isBranch = true) ∧ n = dimension ∧
        problem = "dimension has no number" := by
  have unread : (∀ number, dimension.first? "number" = some number → number.isBranch = true) ↔
      (dimension.first? "number").bind Node.text? = none := by
    simp only [Option.bind_eq_none_iff, Node.text?_eq_none_iff]
  rw [unread]
  refine unread_eq_malformed_iff fun number => ?_
  split
  · simp
  · split <;> simp

namespace BlockSpacing

theorem checkSpace_eq_malformed_iff {wanted : Bool} {space ruleset n : Node} {problem : String} :
    checkSpace wanted space ruleset = some (.malformed n problem) ↔
      space.isBranch = true ∧ n = space ∧ problem = "space has no text" := by
  rw [← Node.text?_eq_none_iff]
  refine unread_eq_malformed_iff fun white => ?_
  split <;> simp

theorem findingAt_eq_malformed_iff {wanted : Bool} {s : Site} {n : Node} {problem : String} :
    findingAt wanted s = some (.malformed n problem) ↔
      Separated s n ∧ n.isBranch = true ∧ problem = "space has no text" := by
  by_cases some : ∃ space, Separated s space
  · obtain ⟨space, separated⟩ := some
    rw [findingAt_of_separated wanted separated, checkSpace_eq_malformed_iff]
    constructor
    · rintro ⟨branch, rfl, said⟩
      exact ⟨separated, branch, said⟩
    · rintro ⟨separated', branch, said⟩
      rw [separated.unique separated']
      exact ⟨branch, rfl, said⟩
  · have none := not_exists.1 some
    rw [findingAt_of_not_separated wanted none]
    constructor
    · intro found
      exact absurd found.symm (Option.some_ne_none _)
    · rintro ⟨separated, -⟩
      exact absurd separated (none n)

end BlockSpacing

namespace Check

variable {c : Check} {tree : Node}

/-- At the sites it looks at, a check finds something malformed exactly where the site stops it. -/
theorem findingAt_eq_malformed_iff {s : Site} (visited : s ∈ c.visits tree) {n : Node} {problem : String} :
    c.findingAt s = some (.malformed n problem) ↔ c.Stops s n problem := by
  cases c with
  | declarationOrder policy => exact iff_of_false DeclarationOrder.findingAt_ne_malformed id
  | hexDigits => rw [findingAt, HexDigits.checkColor_eq_malformed_iff, Stops, and_iff_right (kind_of_alone visited)]
  | hexCase style => rw [findingAt, HexCase.checkColor_eq_malformed_iff, Stops, and_iff_right (kind_of_alone visited)]
  | zeroUnit =>
    rw [findingAt, ZeroUnit.checkDimension_eq_malformed_iff, Stops, and_iff_right (kind_of_alone visited)]
  | blockSpacing wanted => exact BlockSpacing.findingAt_eq_malformed_iff

/-- A check that looks at the nodes of one kind has a site with a property where the tree has such a node. -/
theorem exists_alone_iff {kind : String} {P : Node → Prop} :
    (∃ s ∈ (tree.preorder.filter (·.isOf kind)).map Site.alone, s.node.kind = kind ∧ P s.node) ↔
      ∃ n ∈ tree.preorder, n.kind = kind ∧ P n := by
  constructor
  · rintro ⟨s, visited, ofKind, holds⟩
    obtain ⟨n, kept, rfl⟩ := List.mem_map.1 visited
    exact ⟨n, (List.mem_filter.1 kept).1, ofKind, holds⟩
  · rintro ⟨n, mem, ofKind, holds⟩
    exact ⟨.alone n, List.mem_map_of_mem (List.mem_filter.2 ⟨mem, beq_iff_eq.2 ofKind⟩), ofKind, holds⟩

/-- Some site stops a check exactly when the check fails on the tree. -/
theorem exists_stops_iff : (∃ s ∈ c.visits tree, ∃ n problem, c.Stops s n problem) ↔ c.FailsOn tree := by
  cases c with
  | declarationOrder policy => simp [Stops, FailsOn]
  | hexDigits =>
    simp only [Stops, exists_and_left, exists_eq, and_true]
    exact exists_alone_iff (P := fun n => n.isBranch = true)
  | hexCase style =>
    simp only [Stops, exists_and_left, exists_eq, and_true]
    exact exists_alone_iff (P := fun n => n.isBranch = true)
  | zeroUnit =>
    simp only [Stops, exists_and_left, exists_eq, and_true]
    exact exists_alone_iff (P := fun n => ∀ number, n.first? "number" = some number → number.isBranch = true)
  | blockSpacing wanted =>
    simp only [Stops, FailsOn, visits, List.mem_flatMap, List.mem_filter, Site.mem_below, Node.isOf, Bool.or_eq_true,
      beq_iff_eq]
    constructor
    · rintro ⟨s, ⟨parent, ⟨mem, kind⟩, after, split⟩, space, -, ⟨ruleset, isSpace, earlier, before, item⟩, branch, -⟩
      exact ⟨parent, mem, kind, earlier, space, s.node, after, by simp [split, before], ruleset, isSpace, branch, item⟩
    · rintro ⟨parent, mem, kind, earlier, space, ruleset, after, split, isRuleset, isSpace, branch, item⟩
      exact ⟨⟨earlier ++ [space], ruleset⟩, ⟨parent, ⟨mem, kind⟩, after, by simp [split]⟩, space, _,
        ⟨isRuleset, isSpace, earlier, rfl, item⟩, branch, rfl⟩

end Check

namespace Builtin

variable {b : Builtin} {context : FileContext} {tree : Node} {ledger : Ledger Detection}

/-- The failure of the rule at a site. -/
def failureAt? (b : Builtin) (s : Site) : Option Malformed :=
  (b.check.findingAt s).bind Finding.failure?

theorem failureAt?_eq_some_iff {s : Site} (visited : s ∈ b.check.visits tree) {failure : Malformed} :
    b.failureAt? s = some failure ↔
      ∃ n problem, b.check.Stops s n problem ∧ failure = ⟨n.kind, n.start, problem⟩ := by
  have stops := @Check.findingAt_eq_malformed_iff b.check tree s visited
  constructor
  · intro fails
    rcases b.check.findingAt_cases s with h | ⟨text, h⟩ | ⟨n, problem, h⟩
    · simp [failureAt?, h] at fails
    · simp [failureAt?, h, Finding.failure?] at fails
    · have same : Malformed.mk n.kind n.start problem = failure := by
        simpa [failureAt?, h, Finding.failure?] using fails
      exact ⟨n, problem, stops.1 h, same.symm⟩
  · rintro ⟨n, problem, stopped, rfl⟩
    simp [failureAt?, stops.2 stopped, Finding.failure?]

theorem failureAt?_eq_none_iff {s : Site} (visited : s ∈ b.check.visits tree) :
    b.failureAt? s = none ↔ ∀ n problem, ¬ b.check.Stops s n problem := by
  rw [Option.eq_none_iff_forall_ne_some]
  constructor
  · intro fine n problem stopped
    exact fine _ ((failureAt?_eq_some_iff visited).2 ⟨n, problem, stopped, rfl⟩)
  · intro fine failure fails
    obtain ⟨n, problem, stopped, -⟩ := (failureAt?_eq_some_iff visited).1 fails
    exact fine n problem stopped

/-- Sites that do not stop a rule add what the rule reports there, and the rule goes on. -/
theorem record_append {sites : List Site} (fine : ∀ s ∈ sites, b.failureAt? s = none) (rest : List Finding)
    (ledger : Ledger Detection) :
    record b.name b.severity (sites.filterMap b.check.findingAt ++ rest) ledger =
      record b.name b.severity rest (ledger.addAll (sites.filterMap b.detectionAt?)) := by
  induction sites generalizing ledger with
  | nil => rfl
  | cons s sites ih =>
    obtain ⟨here, later⟩ := List.forall_mem_cons.1 fine
    rcases b.check.findingAt_cases s with h | ⟨text, h⟩ | ⟨n, problem, h⟩
    · have nothing : b.detectionAt? s = none := by simp [detectionAt?, h]
      rw [List.filterMap_cons_none h, List.filterMap_cons_none nothing, ih later]
    · have reported : b.detectionAt? s = some (.ofNode b.name b.severity s.node text) := by
        simp [detectionAt?, h, Finding.detection?]
      rw [List.filterMap_cons_some h, List.filterMap_cons_some reported, List.cons_append, record, ih later,
        Ledger.addAll_cons]
    · simp [failureAt?, h, Finding.failure?] at here

/-- A rule that no site stops. -/
theorem detect_of_fine (fine : ∀ s ∈ b.check.visits tree, b.failureAt? s = none) :
    b.rule.detect context tree ledger = ⟨ledger.addAll ((b.check.visits tree).filterMap b.detectionAt?), none⟩ := by
  have run := record_append fine [] ledger
  rw [List.append_nil] at run
  rw [detect_eq, run, record]

/-- A rule that is stopped by a site and by none before it. -/
theorem detect_of_stopped {earlier later : List Site} {s : Site} {failure : Malformed}
    (split : b.check.visits tree = earlier ++ s :: later) (fine : ∀ e ∈ earlier, b.failureAt? e = none)
    (fails : b.failureAt? s = some failure) :
    b.rule.detect context tree ledger = ⟨ledger.addAll (earlier.filterMap b.detectionAt?), some failure⟩ := by
  obtain ⟨found, at_s, failure_eq⟩ := Option.bind_eq_some_iff.1 fails
  rw [detect_eq, split, List.filterMap_append, List.filterMap_cons_some at_s, record_append fine]
  cases found with
  | offence n text => exact absurd failure_eq.symm (Option.some_ne_none _)
  | reported d => exact absurd failure_eq.symm (Option.some_ne_none _)
  | malformed n problem => rw [record, Option.some.inj failure_eq]

/-- A rule is stopped by no site, or by a first one. -/
theorem fine_or_first_stopped (b : Builtin) (tree : Node) :
    (∀ s ∈ b.check.visits tree, b.failureAt? s = none) ∨
      ∃ earlier s later failure, b.check.visits tree = earlier ++ s :: later ∧
        (∀ e ∈ earlier, b.failureAt? e = none) ∧ b.failureAt? s = some failure := by
  cases stop : (b.check.visits tree).findSome? b.failureAt? with
  | none => exact Or.inl (List.findSome?_eq_none_iff.1 stop)
  | some failure =>
    obtain ⟨earlier, s, later, split, fails, fine⟩ := List.findSome?_eq_some_iff.1 stop
    exact Or.inr ⟨earlier, s, later, failure, split, fine, fails⟩

/-- The detections of the violations among sites, in the order of the sites. -/
inductive Reported (b : Builtin) : List Site → List Detection → Prop where
  | nil : Reported b [] []
  | clean {s : Site} {sites : List Site} {ds : List Detection} (clean : ¬ b.check.Violates s)
      (more : Reported b sites ds) : Reported b (s :: sites) ds
  | violation {s : Site} {sites : List Site} {ds : List Detection} {text : String} (violates : b.check.Violates s)
      (said : b.check.Says s text) (more : Reported b sites ds) :
      Reported b (s :: sites) (.ofNode b.name b.severity s.node text :: ds)

theorem reported_filterMap {sites : List Site} (visited : ∀ s ∈ sites, s ∈ b.check.visits tree) :
    b.Reported sites (sites.filterMap b.detectionAt?) := by
  induction sites with
  | nil => exact .nil
  | cons s sites ih =>
    obtain ⟨here, later⟩ := List.forall_mem_cons.1 visited
    cases found : b.detectionAt? s with
    | none =>
      rw [List.filterMap_cons_none found]
      refine .clean (fun violates => ?_) (ih later)
      obtain ⟨text, said⟩ := violates.exists_text
      have reported := (detectionAt?_eq_some_iff here).2 ⟨violates, text, said, rfl⟩
      exact absurd (reported.symm.trans found) (Option.some_ne_none _)
    | some d =>
      obtain ⟨violates, text, said, rfl⟩ := (detectionAt?_eq_some_iff here).1 found
      rw [List.filterMap_cons_some found]
      exact .violation violates said (ih later)

end Builtin

/-- **When a built-in rule fails, and what it leaves.** It fails exactly on the trees that have a node it
cannot make sense of. The failure tells kind, place and problem of that node at the first site that stops
the rule, and the ledger is the one it was given with the violations at the sites before added. A rule that
does not fail adds the violations at all its sites. In either case the entries that were there stay in front
as they were, and a ledger in which no two entries had one shape stays so. -/
theorem Builtin.detect_fails_iff_and_keeps_ledger (b : Builtin) (context : FileContext) (tree : Node)
    (ledger : Ledger Detection) :
    ((b.rule.detect context tree ledger).failure ≠ none ↔ b.check.FailsOn tree) ∧
    (∀ failure, (b.rule.detect context tree ledger).failure = some failure →
      ∃ earlier s later n problem ds, b.check.visits tree = earlier ++ s :: later ∧
        b.check.Stops s n problem ∧ (∀ e ∈ earlier, ∀ m p, ¬ b.check.Stops e m p) ∧
        failure = ⟨n.kind, n.start, problem⟩ ∧ b.Reported earlier ds ∧
        (b.rule.detect context tree ledger).ledger = ledger.addAll ds) ∧
    ((b.rule.detect context tree ledger).failure = none →
      ∃ ds, b.Reported (b.check.visits tree) ds ∧ (b.rule.detect context tree ledger).ledger = ledger.addAll ds) ∧
    ledger.entries <+: (b.rule.detect context tree ledger).ledger.entries ∧
    (ledger.Distinct → (b.rule.detect context tree ledger).ledger.Distinct) := by
  rcases b.fine_or_first_stopped tree with fine | ⟨earlier, s, later, failure, split, fine, fails⟩
  · have clear : ¬ b.check.FailsOn tree := by
      rw [← Check.exists_stops_iff]
      rintro ⟨s, visited, n, problem, stopped⟩
      exact (failureAt?_eq_none_iff visited).1 (fine s visited) n problem stopped
    rw [detect_of_fine fine]
    exact ⟨by simp [clear], by simp, fun _ => ⟨_, reported_filterMap fun _ mem => mem, rfl⟩,
      ledger.prefix_addAll _, fun distinct => distinct.addAll _⟩
  · have visited : s ∈ b.check.visits tree := by simp [split]
    have before : ∀ e ∈ earlier, e ∈ b.check.visits tree := by simp +contextual [split]
    obtain ⟨n, problem, stopped, rfl⟩ := (failureAt?_eq_some_iff visited).1 fails
    have failing : b.check.FailsOn tree := Check.exists_stops_iff.1 ⟨s, visited, n, problem, stopped⟩
    rw [detect_of_stopped split fine fails]
    refine ⟨by simp [failing], ?_, by simp, ledger.prefix_addAll _, fun distinct => distinct.addAll _⟩
    intro failure same
    exact ⟨earlier, s, later, n, problem, _, split, stopped,
      fun e mem => (failureAt?_eq_none_iff (before e mem)).1 (fine e mem), (Option.some.inj same).symm,
      reported_filterMap before, rfl⟩

/-- A stylesheet with two colors that are too short and then one that has no text. -/
def textlessColor : Node :=
  .branch Linter.sampleInfo (Linter.sampleChildren ++ [.branch ⟨"color", .scss, ⟨4, 1⟩, ⟨4, 3⟩, []⟩ []])

/-- The rule fails at the last color and what the ledger had stays in front. -/
theorem Builtin.detect_fails_iff_and_keeps_ledger_sample :
    Check.hexDigits.FailsOn textlessColor ∧
    ∃ failure, ((⟨.hexDigits, .error⟩ : Builtin).rule.detect default textlessColor ⟨[Linter.lengthMessage]⟩).failure =
        some failure ∧
      [Linter.lengthMessage] <+:
        ((⟨.hexDigits, .error⟩ : Builtin).rule.detect default textlessColor ⟨[Linter.lengthMessage]⟩).ledger.entries := by
  have failing : Check.hexDigits.FailsOn textlessColor := by
    refine ⟨.branch ⟨"color", .scss, ⟨4, 1⟩, ⟨4, 3⟩, []⟩ [], ?_, rfl, rfl⟩
    exact Node.mem_preorder_of_child (List.mem_append_right _ (.head _)) _ (Node.self_mem_preorder _)
  obtain ⟨fails, -, -, kept, -⟩ :=
    Builtin.detect_fails_iff_and_keeps_ledger ⟨.hexDigits, .error⟩ default textlessColor ⟨[Linter.lengthMessage]⟩
  obtain ⟨failure, failed⟩ := Option.ne_none_iff_exists'.1 (fails.2 failing)
  exact ⟨failing, failure, failed, kept⟩

end Rule
end SheetLint
