import SheetLint.Proofs.BuiltinOutcome

/-!
# What a directive takes away

A comment at the end of a stylesheet disturbs no rule: none of them looks for
comments, and the last child stands before no other. All that it can change is
what the comments of the tree suppress. A run with more suppressions fails where
the run without them does, and otherwise leaves out the messages on the lines
they are about, of the rules they name (`messagesOfAll_suppress`).
-/

namespace SheetLint
set_option autoImplicit false

/-- A stylesheet with a comment as its last child. -/
def Node.withComment (info : NodeInfo) (children : List Node) (comment : NodeInfo) (text : String) : Node :=
  .branch info (children ++ [.leaf comment text])

section WithComment

variable {info comment : NodeInfo} {children : List Node} {text : String}

theorem Node.preorder_withComment :
    (withComment info children comment text).preorder =
      withComment info children comment text :: (preorderAll children ++ [.leaf comment text]) := by
  rw [withComment, preorder, preorderAll_append]
  rfl

theorem Node.filter_preorder_withComment {p : Node → Bool} (last : ¬ p (.leaf comment text) = true) :
    (withComment info children comment text).preorder.filter p =
      (withComment info children comment text :: preorderAll children).filter p := by
  rw [preorder_withComment, ← List.cons_append, List.filter_append, List.filter_cons, List.filter_cons, if_neg last,
    List.filter_nil, List.append_nil]

/-- The nodes of a kind that neither the stylesheet nor the comment is of. -/
theorem Node.filter_kind_withComment {kind : String} (sheet : info.kind ≠ kind) (other : comment.kind ≠ kind) :
    (withComment info children comment text).preorder.filter (·.isOf kind) =
      (branch info children).preorder.filter (·.isOf kind) := by
  have root (ns : List Node) : ¬ (branch info ns).isOf kind = true := by
    intro same
    exact sheet (eq_of_beq same)
  have last : ¬ (leaf comment text).isOf kind = true := by
    intro same
    exact other (eq_of_beq same)
  rw [filter_preorder_withComment last, preorder, withComment, List.filter_cons, if_neg (root _), List.filter_cons,
    if_neg (root _)]

/-- A comment has a kind of its own. -/
theorem Suppression.kind_ne {kind : String} (isComment : comment.kind ∈ commentKinds) (other : kind ∉ commentKinds) :
    comment.kind ≠ kind := by
  intro same
  exact other (same ▸ isComment)

namespace Rule

/-- There is nothing to find at a comment between blocks. -/
theorem BlockSpacing.findingAt_comment (wanted : Bool) (before : List Node)
    (isComment : comment.kind ∈ Suppression.commentKinds) : findingAt wanted ⟨before, .leaf comment text⟩ = none := by
  apply findingAt_of_not_separated
  intro space separated
  exact Suppression.kind_ne isComment (by decide) separated.ruleset

/-- **A comment at the end disturbs no rule.** -/
theorem Check.findings_withComment (c : Check) (sheet : info.kind = "stylesheet")
    (isComment : comment.kind ∈ Suppression.commentKinds) :
    (c.visits (.withComment info children comment text)).filterMap c.findingAt =
      (c.visits (.branch info children)).filterMap c.findingAt := by
  have kind {kind : String} (not_sheet : "stylesheet" ≠ kind) (other : kind ∉ Suppression.commentKinds) :=
    @Node.filter_kind_withComment info comment children text kind (sheet ▸ not_sheet)
      (Suppression.kind_ne isComment other)
  cases c with
  | declarationOrder policy => rw [visits, visits, kind (by decide) (by decide)]
  | hexDigits => rw [visits, visits, kind (by decide) (by decide)]
  | hexCase style => rw [visits, visits, kind (by decide) (by decide)]
  | zeroUnit => rw [visits, visits, kind (by decide) (by decide)]
  | blockSpacing wanted =>
    -- the stylesheet is visited, with one more child; the comment has no children to visit
    have root (ns : List Node) :
        ((Node.branch info ns).isOf "stylesheet" || (Node.branch info ns).isOf "block") = true := by
      rw [show (Node.branch info ns).isOf "stylesheet" = true from beq_iff_eq.2 sheet, Bool.true_or]
    have last : ¬ ((Node.leaf comment text).isOf "stylesheet" || (Node.leaf comment text).isOf "block") = true := by
      rw [Bool.or_eq_true, not_or]
      exact ⟨fun same => Suppression.kind_ne isComment (by decide) (eq_of_beq same),
        fun same => Suppression.kind_ne isComment (by decide) (eq_of_beq same)⟩
    have below : (Site.below (.withComment info children comment text)).filterMap (BlockSpacing.findingAt wanted) =
        (Site.below (.branch info children)).filterMap (BlockSpacing.findingAt wanted) := by
      rw [Site.below, Node.withComment, Node.children, Site.following_append, List.filterMap_append,
        Site.following, Site.following, List.nil_append, List.filterMap_cons_none
          (BlockSpacing.findingAt_comment wanted children isComment), List.filterMap_nil, List.append_nil]
      rfl
    have sheet_first (ns more : List Node) :
        (Node.branch info ns :: more).filter (fun n => n.isOf "stylesheet" || n.isOf "block") =
          .branch info ns :: more.filter fun n => n.isOf "stylesheet" || n.isOf "block" := by
      rw [List.filter_cons, if_pos (root ns)]
    rw [visits, visits, Node.filter_preorder_withComment last, Node.preorder, Node.withComment, sheet_first,
      sheet_first, List.flatMap_cons, List.flatMap_cons, List.filterMap_append, List.filterMap_append]
    exact congrArg (· ++ _) below

theorem Builtin.detect_withComment (b : Builtin) (context : FileContext) (sheet : info.kind = "stylesheet")
    (isComment : comment.kind ∈ Suppression.commentKinds) :
    b.rule.detect context (.withComment info children comment text) .empty =
      b.rule.detect context (.branch info children) .empty := by
  rw [detect_eq, detect_eq, Check.findings_withComment _ sheet isComment]

end Rule

namespace Suppression

theorem ofNode?_comment (isComment : comment.kind ∈ commentKinds) :
    ofNode? (.leaf comment text) =
      (Directive.parse? text.toList).map fun p => ⟨p.1.lineOf comment, p.2⟩ := by
  have kind : commentKinds.contains (Node.leaf comment text).kind = true := List.contains_iff_mem.2 isComment
  rw [ofNode?, if_pos kind, Node.text?, Option.bind_some]
  rfl

theorem ofNode?_branch (children : List Node) : ofNode? (.branch info children) = none := by
  simp [ofNode?, Node.text?]

/-- A comment at the end comes after all others. -/
theorem entriesOf_withComment :
    entriesOf (.withComment info children comment text) =
      entriesOf (.branch info children) ++ (ofNode? (.leaf comment text)).toList := by
  rw [entriesOf, entriesOf, Node.descendants_eq_preorder, Node.descendants_eq_preorder, Node.preorder_withComment,
    Node.preorder, Node.withComment, List.filterMap_cons_none (ofNode?_branch _),
    List.filterMap_cons_none (ofNode?_branch _), List.filterMap_append]
  cases found : ofNode? (.leaf comment text) <;> simp [found]

/-- It adds what it switches off to what the others do. -/
theorem ofTree_withComment :
    ofTree (.withComment info children comment text) =
      (ofTree (.branch info children)).addAll (ofNode? (.leaf comment text)).toList := by
  rw [ofTree, entriesOf_withComment, addAll_append, ofTree]

end Suppression
end WithComment

namespace Linter
open Rule (Builtin)

section Suppress

variable {config : Config} {context : FileContext} {suppressions : Suppression} {more : List Suppression.Entry}
  {tree tree' : Node}

/-- What more entries leave of messages. -/
def unsuppressed (more : List Suppression.Entry) (messages : List Detection) : List Detection :=
  messages.filter fun d => !(more.any (·.offB d.position.line d.rule))

@[simp] theorem unsuppressed_nil (messages : List Detection) : unsuppressed [] messages = messages := by
  simp [unsuppressed]

theorem unsuppressed_singleton (line : Nat) (names : List String) (messages : List Detection) :
    unsuppressed [⟨line, names⟩] messages = messages.filter fun m =>
      decide (¬ (m.position.line = line ∧ (m.rule ∈ names ∨ "all" ∈ names))) := by
  refine List.filter_congr fun m _ => ?_
  have off : Suppression.Entry.offB ⟨line, names⟩ m.position.line m.rule =
      decide (m.position.line = line ∧ (m.rule ∈ names ∨ "all" ∈ names)) := by
    rw [Bool.eq_iff_iff, Suppression.Entry.offB_iff, decide_eq_true_iff, @eq_comm _ line]
  rw [List.any_cons, List.any_nil, Bool.or_false, off, decide_not]

theorem contribution_suppress {b : Builtin} (works : (b.rule.detect context tree .empty).failure = none)
    (same : b.rule.detect context tree' .empty = b.rule.detect context tree .empty) :
    contribution config context (suppressions.addAll more) tree' b.rule =
      unsuppressed more (contribution config context suppressions tree b.rule) := by
  have own : ∀ d ∈ contribution config context suppressions tree b.rule,
      (!(more.any (·.offB d.position.line d.rule))) = !(more.any (·.offB d.position.line b.name)) := by
    intro d mem
    rw [Builtin.rule_of_mem_contribution works mem]
  rw [unsuppressed, List.filter_congr own, contribution, contribution, same, List.filter_filter]
  refine List.filter_congr fun d _ => ?_
  rw [Suppression.disabledB_addAll, Bool.not_or, Bool.and_comm]
  rfl

/-- One rule on a tree where it finds the same and more is suppressed. -/
theorem messagesOf_suppress {b : Builtin}
    (same : b.rule.detect context tree' .empty = b.rule.detect context tree .empty) :
    messagesOf config context (suppressions.addAll more) tree' b.rule =
      (messagesOf config context suppressions tree b.rule).map (unsuppressed more) := by
  cases works : (b.rule.detect context tree .empty).failure with
  | some cause =>
    rw [messagesOf_of_failure (same ▸ works), messagesOf_of_failure works]
    rfl
  | none =>
    rw [messagesOf_of_ok (same ▸ works), messagesOf_of_ok works, contribution_suppress works same]
    rfl

/-- The loop over the rules, likewise. -/
theorem messagesOfAll_suppress {rules : List Builtin}
    (same : ∀ b ∈ rules, b.rule.detect context tree' .empty = b.rule.detect context tree .empty) :
    messagesOfAll config context (suppressions.addAll more) tree' (rules.map Builtin.rule) =
      (messagesOfAll config context suppressions tree (rules.map Builtin.rule)).map (unsuppressed more) := by
  induction rules with
  | nil => rfl
  | cons b rest ih =>
    obtain ⟨first, later⟩ := List.forall_mem_cons.1 same
    rw [List.map_cons, messagesOfAll, messagesOfAll, messagesOf_suppress first, ih later]
    cases messagesOf config context suppressions tree b.rule with
    | error f => rfl
    | ok messages =>
      cases messagesOfAll config context suppressions tree (rest.map Builtin.rule) with
      | error f => rfl
      | ok gathered => exact congrArg Except.ok (List.filter_append ..).symm

end Suppress

section Run

variable (root : String) (registered : List Builtin) (config : Config) (path : String)

/-- A run on a stylesheet with a comment at its end is that without it, with more suppressed. -/
theorem lintTree_withComment_eq {info comment : NodeInfo} (children : List Node) (text : String)
    (sheet : info.kind = "stylesheet") (isComment : comment.kind ∈ Suppression.commentKinds) :
    (ofBuiltins root registered config).lintTree path
        (.branch info (children ++ [.leaf comment text])) =
      (messagesOfAll config (FileContext.of path root (.branch info children))
        (Suppression.ofTree (.branch info children)) (.branch info children)
        ((registered.filter fun b => config.enabledB b.name).map Builtin.rule)).map fun messages =>
          .ofMessages (FileContext.of path root (.branch info children)).relativePath
            (unsuppressed (Suppression.ofNode? (.leaf comment text)).toList messages) := by
  have context : FileContext.of path root (.withComment info children comment text) =
      FileContext.of path root (.branch info children) := rfl
  have more := @messagesOfAll_suppress config (FileContext.of path root (.branch info children))
    (Suppression.ofTree (.branch info children)) (Suppression.ofNode? (.leaf comment text)).toList
    (.branch info children) (.withComment info children comment text)
    (registered.filter fun b => config.enabledB b.name) fun b _ => b.detect_withComment _ sheet isComment
  rw [← Suppression.ofTree_withComment] at more
  rw [← Node.withComment, lintTree_ofBuiltins_eq, context, more]
  cases messagesOfAll config (FileContext.of path root (.branch info children))
    (Suppression.ofTree (.branch info children)) (.branch info children)
    ((registered.filter fun b => config.enabledB b.name).map Builtin.rule) <;> rfl

end Run

/-- **A directive takes away exactly what it names.** A comment is put at the end of a stylesheet. Without
a directive in it the result of a run stays as it is. With one the run fails as it does without, or goes
through with the same messages in the same order, less those on the line of the directive that are of
rules that it names, or of any rule where it names all. This line is the one that the comment starts on,
or has the number after that of its last line, unless this is the largest there is. -/
theorem lintTree_withComment (root : String) (registered : List Builtin) (config : Config) (path : String)
    {info comment : NodeInfo} (children : List Node) (text : String) (sheet : info.kind = "stylesheet")
    (isComment : comment.kind = "singlelineComment" ∨ comment.kind = "multilineComment") :
    (Directive.parse? text.toList = none →
      (ofBuiltins root registered config).lintTree path
          (.branch info (children ++ [.leaf comment text])) =
        (ofBuiltins root registered config).lintTree path (.branch info children)) ∧
    (∀ d names, Directive.parse? text.toList = some (d, names) →
      (∃ f,
        (ofBuiltins root registered config).lintTree path (.branch info children) = .error f ∧
        (ofBuiltins root registered config).lintTree path
          (.branch info (children ++ [.leaf comment text])) = .error f) ∨
      ∃ report less,
        (ofBuiltins root registered config).lintTree path (.branch info children) = .ok report ∧
        (ofBuiltins root registered config).lintTree path
          (.branch info (children ++ [.leaf comment text])) = .ok less ∧
        less.path = report.path ∧
        less.messages = report.messages.filter fun m =>
          decide (¬ (m.position.line = d.lineOf comment ∧ (m.rule ∈ names ∨ "all" ∈ names)))) ∧
    Directive.line.lineOf comment = comment.start.line ∧
    (comment.stop.line < Node.maxNat → Directive.nextLine.lineOf comment = comment.stop.line + 1) := by
  have kind : comment.kind ∈ Suppression.commentKinds := Suppression.mem_commentKinds_iff.2 isComment
  have run := lintTree_withComment_eq root registered config path children text sheet kind
  rw [Suppression.ofNode?_comment kind] at run
  refine ⟨?_, ?_, rfl, Position.nextLine_of_lt⟩
  · intro plain
    rw [run, plain, lintTree_ofBuiltins_eq]
    simp only [Option.map_none, Option.toList_none, unsuppressed_nil]
  · intro d names directive
    rw [run, directive, lintTree_ofBuiltins_eq]
    cases messagesOfAll config (FileContext.of path root (.branch info children))
        (Suppression.ofTree (.branch info children)) (.branch info children)
        ((registered.filter fun b => config.enabledB b.name).map Builtin.rule) with
    | error f => exact Or.inl ⟨f, rfl, rfl⟩
    | ok messages =>
      refine Or.inr ⟨_, _, rfl, rfl, rfl, ?_⟩
      rw [FileReport.ofMessages_messages, FileReport.ofMessages_messages, Detection.filter_sorted]
      exact congrArg Detection.sorted (unsuppressed_singleton _ names messages)

/-- A comment above the line takes away the message about the length. -/
theorem lintTree_withComment_sample :
    Directive.parse? " sass-lint:disable-next-line hex-notation, zero-unit ".toList =
      some (.nextLine, ["hex-notation", "zero-unit"]) ∧
    ∃ less, (ofBuiltins "/p" sampleRules {}).lintTree "/p/a.scss.json"
        (.branch sampleInfo (sampleChildren ++ [.leaf ⟨"multilineComment", .scss, ⟨1, 1⟩, ⟨2, 56⟩, []⟩
          " sass-lint:disable-next-line hex-notation, zero-unit "])) = .ok less ∧
      less.messages = [colorMessage] := by
  have directive : Directive.parse? " sass-lint:disable-next-line hex-notation, zero-unit ".toList =
      some (.nextLine, ["hex-notation", "zero-unit"]) := by decide +kernel
  have effect := (lintTree_withComment "/p" sampleRules {} "/p/a.scss.json" sampleChildren _
    (show sampleInfo.kind = "stylesheet" from rfl)
    (show (⟨"multilineComment", .scss, ⟨1, 1⟩, ⟨2, 56⟩, []⟩ : NodeInfo).kind = "singlelineComment" ∨
      (⟨"multilineComment", .scss, ⟨1, 1⟩, ⟨2, 56⟩, []⟩ : NodeInfo).kind = "multilineComment" from .inr rfl)).2.1
    _ _ directive
  rw [lintTree_sample] at effect
  obtain ⟨f, failed, -⟩ | ⟨report, less, full, run, -, messages⟩ := effect
  · exact absurd failed (by simp)
  · obtain rfl := Except.ok.inj full
    refine ⟨directive, less, run, messages.trans ?_⟩
    decide +kernel

end Linter
end SheetLint
