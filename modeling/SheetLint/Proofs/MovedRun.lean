import SheetLint.Proofs.BuiltinOutcome
import SheetLint.Proofs.RelabelledTree

/-!
# Runs on trees that differ in what their nodes carry

Where the nodes of a tree are given other data and move down by `k` lines, the run of
built-in rules moves with them: a failure is the same further down, and so is each message
of a report (`lintTree_relabel`). Fingerprints, directives and the order by position
compare lines with lines, never with a number of their own, so all of them move at once.

Two cases. Without moving anything, what is changed is what a report does not depend on.
With everything moved alike, the report of the stylesheet further down is the report
further down.
-/

namespace SheetLint
set_option autoImplicit false

theorem Position.leB_down (k : Nat) (a b : Position) : (a.down k).leB (b.down k) = a.leB b := by
  rw [Bool.eq_iff_iff, leB_iff, leB_iff]
  unfold Position.down Le
  dsimp only
  omega

theorem Shape.down_inj {k : Nat} {s t : Shape} : s.down k = t.down k ↔ s = t := by
  obtain ⟨kind, first, last, length⟩ := s
  obtain ⟨kind', first', last', length'⟩ := t
  simp only [down, Shape.mk.injEq, Nat.add_right_cancel_iff]

namespace Ledger

/-- The ledger of the detections `k` lines further down. -/
def down (k : Nat) (ledger : Ledger Detection) : Ledger Detection := ⟨ledger.entries.map (Detection.down k)⟩

theorem isNewB_down (k : Nat) (ledger : Ledger Detection) (d : Detection) :
    (ledger.down k).isNewB (d.down k) = ledger.isNewB d := by
  have same (e : Detection) : shape (e.down k) = shape (d.down k) ↔ shape e = shape d := Shape.down_inj
  rw [Bool.eq_iff_iff, isNewB_iff, isNewB_iff]
  unfold down
  simp only [List.forall_mem_map, ne_eq, same]

/-- Detections that are further down are taken as they would be where they stand. -/
theorem add_down (k : Nat) (ledger : Ledger Detection) (d : Detection) :
    (ledger.down k).add (d.down k) = (ledger.add d).down k := by
  unfold add
  rw [isNewB_down]
  split
  · simp only [down, List.map_append, List.map_singleton]
  · rfl

end Ledger

/-- The failure `k` lines further down. -/
def Malformed.down (k : Nat) (e : Malformed) : Malformed := { e with position := e.position.down k }

/-- The failure of a rule `k` lines further down. -/
def RuleFailure.down (k : Nat) (f : RuleFailure) : RuleFailure := { f with cause := f.cause.down k }

/-- The report on the file, `k` lines further down. -/
def FileReport.down (k : Nat) (r : FileReport) : FileReport := { r with messages := r.messages.map (Detection.down k) }

/-- What is switched off on a line, `k` lines further down. -/
def Suppression.Entry.down (k : Nat) (e : Entry) : Entry := { e with line := e.line + k }

/-- The lines after the comments of a tree are `k` lines further down with the data that `f` gives. Where the
numbers of lines do not start over, they are. -/
def Node.NextLinesMove (k : Nat) (f : NodeInfo → NodeInfo) (tree : Node) : Prop :=
  ∀ n : Node, n.Within tree → n.kind ∈ Suppression.commentKinds → (f n.info).stop.nextLine = n.stop.nextLine + k

namespace Rule

section Record

variable {k : Nat} {f : NodeInfo → NodeInfo} (moves : NodeInfo.Moves k f)
include moves

theorem ofNode_relabel (name : String) (severity : Severity) (n : Node) (message : String) :
    Detection.ofNode name severity (n.relabel f) message = (Detection.ofNode name severity n message).down k := by
  unfold Detection.ofNode Detection.down
  rw [Node.start_relabel moves, Node.shape_relabel moves]

/-- Findings in a relabelled tree leave the ledger further down, and fail further down. -/
theorem record_relabel (name : String) (severity : Severity) (fs : List Finding) (ledger : Ledger Detection) :
    record name severity (fs.map (Finding.relabel k f)) (ledger.down k) =
      ⟨(record name severity fs ledger).ledger.down k, (record name severity fs ledger).failure.map (Malformed.down k)⟩ := by
  induction fs generalizing ledger with
  | nil => rfl
  | cons finding rest ih =>
    cases finding with
    | offence n message =>
      rw [List.map_cons, Finding.relabel, record, ofNode_relabel moves, Ledger.add_down, ih, record]
    | reported d => rw [List.map_cons, Finding.relabel, record, Ledger.add_down, ih, record]
    | malformed n problem =>
      rw [List.map_cons, Finding.relabel, record, Node.kind_relabel moves, Node.start_relabel moves, record]
      rfl

/-- A built-in rule does on a relabelled tree what it does on the tree, further down. The context plays no part
in it. -/
theorem Builtin.detect_relabel (b : Builtin) (context context' : FileContext) (tree : Node) :
    b.rule.detect context' (tree.relabel f) .empty =
      ⟨(b.rule.detect context tree .empty).ledger.down k,
        (b.rule.detect context tree .empty).failure.map (Malformed.down k)⟩ := by
  rw [detect_eq, Check.findings_relabel moves, detect_eq]
  exact record_relabel moves b.name b.severity _ .empty

end Record
end Rule

namespace Suppression

section Relabel

variable {k : Nat} {f : NodeInfo → NodeInfo} (moves : NodeInfo.Moves k f)
include moves

theorem lineOf_relabel {info : NodeInfo} (next : (f info).stop.nextLine = info.stop.nextLine + k) (d : Directive) :
    d.lineOf (f info) = d.lineOf info + k := by
  cases d with
  | line =>
    rw [Directive.lineOf, moves.start]
    rfl
  | nextLine => exact next

theorem ofNode?_relabel {n : Node}
    (next : n.kind ∈ commentKinds → (f n.info).stop.nextLine = n.stop.nextLine + k) :
    ofNode? (n.relabel f) = (ofNode? n).map (Entry.down k) := by
  unfold ofNode?
  rw [Node.kind_relabel moves, Node.text?_relabel, Node.info_relabel]
  split
  · next comment =>
    rw [Option.map_map]
    congr 1
    funext p
    rw [lineOf_relabel moves (next (List.contains_iff_mem.1 comment))]
    rfl
  · rfl

theorem entriesOf_relabel {tree : Node} (next : tree.NextLinesMove k f) :
    entriesOf (tree.relabel f) = (entriesOf tree).map (Entry.down k) := by
  unfold entriesOf
  rw [Node.descendants_eq_preorder, Node.preorder_relabel, ← Node.descendants_eq_preorder, List.filterMap_map,
    List.map_filterMap]
  refine List.filterMap_congr fun n mem => ?_
  exact ofNode?_relabel moves (next n (Node.mem_descendants_iff.1 mem))

end Relabel

theorem Entry.offB_down (k : Nat) (e : Entry) (line : Nat) (rule : String) :
    (e.down k).offB (line + k) rule = e.offB line rule := by
  have moved : (e.line + k == line + k) = (e.line == line) := by
    rw [Bool.eq_iff_iff, beq_iff_eq, beq_iff_eq]
    omega
  unfold offB down
  dsimp only
  rw [moved]
  rfl

/-- What is switched off moves with the comments. -/
theorem disabledB_relabel {k : Nat} {f : NodeInfo → NodeInfo} (moves : NodeInfo.Moves k f) {tree : Node}
    (next : tree.NextLinesMove k f) (line : Nat) (rule : String) :
    (ofTree (tree.relabel f)).disabledB (line + k) rule = (ofTree tree).disabledB line rule := by
  rw [disabledB_ofTree, entriesOf_relabel moves next, List.any_map, disabledB_ofTree]
  congr 1
  funext e
  exact e.offB_down k line rule

end Suppression

theorem Detection.sorted_down (k : Nat) (ds : List Detection) :
    sorted (ds.map (down k)) = (sorted ds).map (down k) := by
  unfold sorted
  symm
  apply List.map_mergeSort
  intro a _ b _
  exact (Position.leB_down k a.position b.position).symm

theorem FileReport.ofMessages_down (k : Nat) (path : String) (ds : List Detection) :
    ofMessages path (ds.map (Detection.down k)) = (ofMessages path ds).down k := by
  have errors : (fun d : Detection => d.severity == .error) ∘ Detection.down k = fun d => d.severity == .error := rfl
  dsimp only [ofMessages]
  rw [Detection.sorted_down, List.countP_map, errors, List.length_map]
  rfl

namespace Linter
open Rule (Builtin)

section Run

variable {k : Nat} {f : NodeInfo → NodeInfo} (moves : NodeInfo.Moves k f) {config : Config}
  {context context' : FileContext} {suppressions moved : Suppression} {tree : Node}
include moves

/-- One rule on a relabelled tree, with what is suppressed moved as well. -/
theorem messagesOf_relabel (path : context'.relativePath = context.relativePath)
    (off : ∀ line rule, moved.disabledB (line + k) rule = suppressions.disabledB line rule) (b : Builtin) :
    messagesOf config context' moved (tree.relabel f) b.rule =
      ((messagesOf config context suppressions tree b.rule).map (List.map (Detection.down k))).mapError
        (RuleFailure.down k) := by
  have run := Rule.Builtin.detect_relabel moves b context context' tree
  cases outcome : (b.rule.detect context tree .empty).failure with
  | some cause =>
    rw [outcome] at run
    rw [messagesOf_of_failure (congrArg Outcome.failure run), messagesOf_of_failure outcome, path]
    rfl
  | none =>
    rw [outcome] at run
    rw [messagesOf_of_ok (congrArg Outcome.failure run), messagesOf_of_ok outcome]
    refine congrArg Except.ok ?_
    have adjusted : override config b.name ∘ Detection.down k = Detection.down k ∘ override config b.name := by
      funext d
      show override config b.name (d.down k) = (override config b.name d).down k
      rw [← adjust_eq_override, ← adjust_eq_override]
      rfl
    have kept : (fun d : Detection => !moved.disabledB d.position.line b.rule.name) ∘ Detection.down k =
        fun d => !suppressions.disabledB d.position.line b.rule.name := by
      funext d
      exact congrArg (! ·) (off d.position.line b.rule.name)
    unfold contribution
    rw [run]
    show ((List.map _ (List.map _ _)).filter _) = _
    rw [List.map_map, Rule.Builtin.rule_name, adjusted, ← List.map_map, List.filter_map]
    rw [Rule.Builtin.rule_name] at kept
    rw [kept]

/-- The loop over the rules, likewise. -/
theorem messagesOfAll_relabel (path : context'.relativePath = context.relativePath)
    (off : ∀ line rule, moved.disabledB (line + k) rule = suppressions.disabledB line rule) (rules : List Builtin) :
    messagesOfAll config context' moved (tree.relabel f) (rules.map Builtin.rule) =
      ((messagesOfAll config context suppressions tree (rules.map Builtin.rule)).map
        (List.map (Detection.down k))).mapError (RuleFailure.down k) := by
  induction rules with
  | nil => rfl
  | cons b rest ih =>
    rw [List.map_cons, messagesOfAll, messagesOf_relabel moves path off, ih, messagesOfAll]
    cases messagesOf config context suppressions tree b.rule with
    | error e => rfl
    | ok messages =>
      cases messagesOfAll config context suppressions tree (rest.map Builtin.rule) with
      | error e => rfl
      | ok more => exact congrArg Except.ok List.map_append.symm

/-- **A run on a relabelled tree** has the result of the run on the tree, further down. -/
theorem lintTree_relabel (root : String) (registered : List Builtin) (path : String)
    (next : tree.NextLinesMove k f) :
    (ofBuiltins root registered config).lintTree path (tree.relabel f) =
      (((ofBuiltins root registered config).lintTree path tree).map (FileReport.down k)).mapError
        (RuleFailure.down k) := by
  have reported : (FileContext.of path root (tree.relabel f)).relativePath = (FileContext.of path root tree).relativePath :=
    rfl
  rw [lintTree_ofBuiltins_eq, messagesOfAll_relabel moves reported (Suppression.disabledB_relabel moves next), reported,
    lintTree_ofBuiltins_eq]
  cases messagesOfAll config (FileContext.of path root tree) (Suppression.ofTree tree) tree
    ((registered.filter fun b => config.enabledB b.name).map Builtin.rule) with
  | error e => rfl
  | ok messages => exact congrArg Except.ok (FileReport.ofMessages_down k _ messages)

end Run

end Linter

namespace NodeInfo

/-- The data of a node `k` lines further down. -/
def down (k : Nat) (i : NodeInfo) : NodeInfo := { i with start := i.start.down k, stop := i.stop.down k }

theorem moves_down (k : Nat) : Moves k (down k) := ⟨fun _ => rfl, fun _ => rfl, fun _ => rfl⟩

theorem nextLine_down {k : Nat} {i : NodeInfo} (fits : i.stop.line + k < Node.maxNat) :
    (i.down k).stop.nextLine = i.stop.nextLine + k := by
  have first : i.stop.nextLine = i.stop.line + 1 := Position.nextLine_of_lt (by omega)
  have later : (i.down k).stop.nextLine = i.stop.line + k + 1 := Position.nextLine_of_lt fits
  omega

/-- Two nodes carry the same where a report may depend on it: their kind, where they start, and the line they
stop on. -/
structure Alike (i j : NodeInfo) : Prop where
  kind : i.kind = j.kind
  start : i.start = j.start
  stopLine : i.stop.line = j.stop.line

/-- The data of a node without what a report does not depend on. -/
def bare (i : NodeInfo) : NodeInfo := { i with dialect := .scss, stop := ⟨i.stop.line, 0⟩, indexes := [] }

theorem moves_bare : Moves 0 bare := ⟨fun _ => rfl, fun _ => rfl, fun _ => rfl⟩

theorem Alike.bare_eq {i j : NodeInfo} (alike : i.Alike j) : i.bare = j.bare := by
  unfold bare
  rw [alike.kind, alike.start, alike.stopLine]

end NodeInfo

namespace Node

/-- The tree with `k` added to the lines that each node starts and stops on. -/
def down (k : Nat) (tree : Node) : Node := tree.relabel (NodeInfo.down k)

mutual

/-- Two trees of one form, with the same texts and the same data where a report may depend on it. -/
def Alike : Node → Node → Prop
  | leaf i t, leaf j u => i.Alike j ∧ t = u
  | branch i cs, branch j ds => i.Alike j ∧ AlikeAll cs ds
  | _, _ => False

/-- As many trees on both sides, each like the other. -/
def AlikeAll : List Node → List Node → Prop
  | [], [] => True
  | n :: ns, m :: ms => Alike n m ∧ AlikeAll ns ms
  | _, _ => False

end

mutual

/-- Trees that are alike are the same tree without what a report does not depend on. -/
theorem Alike.relabel_bare : {n m : Node} → Alike n m → n.relabel NodeInfo.bare = m.relabel NodeInfo.bare
  | leaf i t, leaf j u, ⟨alike, same⟩ => by rw [relabel, relabel, alike.bare_eq, same]
  | branch i cs, branch j ds, ⟨alike, children⟩ => by
    rw [relabel, relabel, alike.bare_eq, AlikeAll.relabelAll_bare children]

theorem AlikeAll.relabelAll_bare : {ns ms : List Node} → AlikeAll ns ms →
    relabelAll NodeInfo.bare ns = relabelAll NodeInfo.bare ms
  | [], [], _ => rfl
  | n :: ns, m :: ms, ⟨alike, rest⟩ => by
    rw [relabelAll, relabelAll, Alike.relabel_bare alike, AlikeAll.relabelAll_bare rest]

end
end Node

namespace Linter
open Rule (Builtin)

theorem lintTree_bare (root : String) (registered : List Builtin) (config : Config) (path : String) (tree : Node) :
    (ofBuiltins root registered config).lintTree path (tree.relabel NodeInfo.bare) =
      (ofBuiltins root registered config).lintTree path tree := by
  -- nothing moves, so no number of a line starts over that did not
  have still : tree.NextLinesMove 0 NodeInfo.bare := fun _ _ _ => rfl
  rw [lintTree_relabel NodeInfo.moves_bare root registered path still]
  cases (ofBuiltins root registered config).lintTree path tree with
  | error e => rfl
  | ok report =>
    have still : Detection.down 0 = id := rfl
    refine congrArg Except.ok ?_
    unfold FileReport.down
    rw [still, List.map_id]

/-- **What a report depends on.** Two trees of one form whose nodes agree in kind, text, start and last line,
and may differ in dialect, indexes and last column, have one result: the same report or the same failure. -/
theorem lintTree_of_alike (root : String) (registered : List Builtin) (config : Config) (path : String)
    {tree tree' : Node} (alike : tree.Alike tree') :
    (ofBuiltins root registered config).lintTree path tree =
      (ofBuiltins root registered config).lintTree path tree' := by
  rw [← lintTree_bare, alike.relabel_bare, lintTree_bare]

/-- The sample stylesheet in another dialect, with other last columns and with indexes. -/
def sampleInLess : Node :=
  .branch ⟨"stylesheet", .less, ⟨1, 1⟩, ⟨3, 40⟩, [0, 2]⟩
    [.branch ⟨"dimension", .less, ⟨3, 13⟩, ⟨3, 0⟩, [1]⟩
        [.leaf ⟨"number", .sass, ⟨3, 13⟩, ⟨3, 1⟩, []⟩ "0", .leaf ⟨"ident", .css, ⟨3, 14⟩, ⟨3, 2⟩, [5]⟩ "px"],
      .leaf ⟨"color", .scss, ⟨3, 1⟩, ⟨3, 30⟩, []⟩ "ab", .leaf ⟨"color", .less, ⟨3, 7⟩, ⟨3, 90⟩, [7]⟩ "cd"]

theorem lintTree_of_alike_sample :
    (Node.branch sampleInfo sampleChildren).Alike sampleInLess ∧
    (ofBuiltins "/p" sampleRules {}).lintTree "/p/a.scss.json" sampleInLess =
      .ok ⟨"a.scss", [colorMessage, lengthMessage], 1, 1⟩ := by
  have alike : (Node.branch sampleInfo sampleChildren).Alike sampleInLess := by
    have data (kind : String) (start stop stop' : Position) (dialect dialect' : Dialect) (indexes indexes' : List Nat)
        (last : stop.line = stop'.line) :
        NodeInfo.Alike ⟨kind, dialect, start, stop, indexes⟩ ⟨kind, dialect', start, stop', indexes'⟩ := ⟨rfl, rfl, last⟩
    simp only [sampleInLess, sampleInfo, sampleChildren, Node.Alike, Node.AlikeAll, data, and_self]
  exact ⟨alike, (lintTree_of_alike "/p" sampleRules {} "/p/a.scss.json" alike).symm.trans lintTree_sample⟩

/-- **A stylesheet further down has its report further down.** The lines of every node are made larger by `k`, and
even so there is a number for the line after each comment. The run fails as before, with the same rule and problem,
at a line that is larger by `k`; or it goes through as before, and its messages are the same in the same order, at
lines that are larger by `k`, and are counted the same. -/
theorem lintTree_down (root : String) (registered : List Builtin) (config : Config) (path : String) (tree : Node)
    (k : Nat) (fits : ∀ n : Node, n.Within tree → n.kind ∈ Suppression.commentKinds → n.stop.line + k < Node.maxNat) :
    (∃ f, (ofBuiltins root registered config).lintTree path tree = .error f ∧
      (ofBuiltins root registered config).lintTree path (tree.down k) =
        .error ⟨f.rule, f.path, ⟨f.cause.kind, ⟨f.cause.position.line + k, f.cause.position.column⟩, f.cause.problem⟩⟩) ∨
    ∃ report moved, (ofBuiltins root registered config).lintTree path tree = .ok report ∧
      (ofBuiltins root registered config).lintTree path (tree.down k) = .ok moved ∧
      moved.path = report.path ∧
      (moved.messages = report.messages.map fun m =>
        ⟨⟨m.position.line + k, m.position.column⟩, m.rule, m.message, m.severity,
          ⟨m.shape.kind, m.shape.startLine + k, m.shape.stopLine + k, m.shape.contentLength⟩⟩) ∧
      moved.warningCount = report.warningCount ∧ moved.errorCount = report.errorCount := by
  have next : tree.NextLinesMove k (NodeInfo.down k) := fun n inside comment =>
    NodeInfo.nextLine_down (fits n inside comment)
  have run : (ofBuiltins root registered config).lintTree path (tree.down k) = _ :=
    lintTree_relabel (NodeInfo.moves_down k) root registered path next
  cases outcome : (ofBuiltins root registered config).lintTree path tree with
  | error f =>
    rw [outcome] at run
    exact Or.inl ⟨f, rfl, run⟩
  | ok report =>
    rw [outcome] at run
    exact Or.inr ⟨report, report.down k, rfl, run, rfl, rfl, rfl, rfl⟩

/-- The sample stylesheet with a comment that switches the rule on lengths off below it. -/
def sampleSwitchedOff : Node :=
  .branch sampleInfo (sampleChildren ++
    [.leaf ⟨"multilineComment", .scss, ⟨1, 1⟩, ⟨2, 40⟩, []⟩ "sass-lint:disable-next-line zero-unit"])

theorem lintTree_switchedOff :
    (ofBuiltins "/p" sampleRules {}).lintTree "/p/a.scss.json" sampleSwitchedOff = .ok ⟨"a.scss", [colorMessage], 0, 1⟩ := by
  have off : Suppression.ofTree sampleSwitchedOff = Suppression.empty.add ⟨3, ["zero-unit"]⟩ := by
    rw [Suppression.ofTree, Suppression.entriesOf, Node.descendants_eq_preorder]
    decide +kernel
  have contributed : ((sampleRules.filter fun b => ({} : Config).enabledB b.name).flatMap fun b =>
      contribution {} (FileContext.of "/p/a.scss.json" "/p" sampleSwitchedOff)
        (Suppression.empty.add ⟨3, ["zero-unit"]⟩) sampleSwitchedOff b.rule) = [colorMessage] := by
    simp only [contribution, Builtin.detect_eq]
    decide +kernel
  refine lintTree_ofBuiltins_eq_ok_iff.2 ⟨?_, ?_⟩
  · simp only [Builtin.detect_eq]
    decide +kernel
  · rw [off, contributed, FileReport.ofMessages, Detection.sorted, List.mergeSort_singleton]
    decide +kernel

/-- Ten lines further down the comment is about the line that the length has moved to. -/
theorem lintTree_down_sample :
    (∀ n : Node, n.Within sampleSwitchedOff → n.kind ∈ Suppression.commentKinds → n.stop.line + 10 < Node.maxNat) ∧
    ∃ moved, (ofBuiltins "/p" sampleRules {}).lintTree "/p/a.scss.json" (sampleSwitchedOff.down 10) = .ok moved ∧
      moved.messages = [⟨⟨13, 1⟩, "no-invalid-hex", "Hexadecimal color `#ab` must be 3 or 6 hex digits", .error,
        ⟨"color", 13, 13, 2⟩⟩] ∧ moved.errorCount = 1 := by
  have below : (sampleSwitchedOff.preorder.all fun n => decide (n.stop.line + 10 < Node.maxNat)) = true := by
    decide +kernel
  have fits (n : Node) (inside : n.Within sampleSwitchedOff) (_ : n.kind ∈ Suppression.commentKinds) :
      n.stop.line + 10 < Node.maxNat := by
    rw [← Node.mem_descendants_iff, Node.descendants_eq_preorder] at inside
    exact of_decide_eq_true (List.all_eq_true.1 below n inside)
  refine ⟨fits, ?_⟩
  obtain ⟨f, failed, -⟩ | ⟨report, moved, ok, run, -, messages, -, errors⟩ :=
    lintTree_down "/p" sampleRules {} "/p/a.scss.json" sampleSwitchedOff 10 fits
  · rw [lintTree_switchedOff] at failed
    cases failed
  · rw [lintTree_switchedOff] at ok
    obtain rfl := Except.ok.inj ok
    exact ⟨moved, run, messages, errors⟩

end Linter
end SheetLint
