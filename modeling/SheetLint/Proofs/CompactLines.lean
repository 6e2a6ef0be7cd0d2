import SheetLint.Proofs.LintCorrectness
import SheetLint.Proofs.PathCharacters
import SheetLint.Proofs.ReportCounts

/-!
# The lines of the compact output

The compact output writes one record for each detection and ends it with a line end. The record
is a line when the message has no line end of its own. Paths, positions, severities and names of
rules never bring one in, but a message quotes tokens of the tree as they are, and a dump can hold
a color, a number or a name with a line end in it. So `length_closedLines_renderCompact` counts
the lines as the detections and the line ends in their messages, and only a tree with such a token
has a message with one (`Rule.Check.Says.hasSplitToken`).
-/

namespace SheetLint
set_option autoImplicit false
open Rule (Builtin)

namespace Text

/-- The lines of a text that a line end closes; what follows the last line end is none. -/
def closedLines (text : List Char) : List (List Char) := (pieces '\n' text).dropLast

theorem length_pieces (separator : Char) (text : List Char) :
    (pieces separator text).length = text.count separator + 1 := by
  induction text with
  | nil => rfl
  | cons c rest ih =>
    by_cases here : c = separator
    · rw [pieces, if_pos here, here, List.count_cons_self, List.length_cons, ih]
    · obtain ⟨first, more, cut⟩ := List.exists_cons_of_ne_nil (pieces_ne_nil separator rest)
      rw [cut] at ih
      simp only [pieces, if_neg here, cut]
      rw [List.count_cons_of_ne here]
      exact ih

theorem length_closedLines (text : List Char) : (closedLines text).length = text.count '\n' := by
  rw [closedLines, List.length_dropLast, length_pieces]
  rfl

/-- Records without line ends, each closed by one, are the lines. -/
theorem closedLines_flatMap {α : Type} {record : α → List Char} {xs : List α} (free : ∀ x ∈ xs, '\n' ∉ record x) :
    closedLines (xs.flatMap fun x => record x ++ ['\n']) = xs.map record := by
  induction xs with
  | nil => rfl
  | cons x xs ih =>
    obtain ⟨first, later⟩ := List.forall_mem_cons.1 free
    rw [List.flatMap_cons, List.append_assoc, List.singleton_append, closedLines, pieces_append_cons first,
      List.dropLast_cons_of_ne_nil (pieces_ne_nil _ _), List.map_cons]
    exact congrArg _ (ih later)

/-- Numerals have no line end. -/
theorem not_mem_toDigits (n : Nat) : '\n' ∉ Nat.toDigits 10 n := by
  intro mem
  have digit := Nat.isDigit_of_mem_toDigits (by decide) (by decide) mem
  exact absurd digit (by decide)

end Text

namespace Node

/-- Some color, number or name of the tree has a line end in it. -/
def HasSplitToken (tree : Node) : Prop :=
  ∃ n ∈ tree.preorder, (n.kind = "color" ∨ n.kind = "number" ∨ n.kind = "ident") ∧
    ∃ text, n.text? = some text ∧ '\n' ∈ text.toList

variable {tree n child : Node} {kind text : String}

theorem mem_preorder_of_first (mem : n ∈ tree.preorder) (first : n.first? kind = some child) :
    child ∈ tree.preorder ∧ child.kind = kind := by
  unfold first? at first
  have found := List.find?_some first
  exact ⟨mem_preorder_of_child (List.mem_of_find?_eq_some first) tree mem, eq_of_beq found⟩

theorem HasSplitToken.of_first (mem : n ∈ tree.preorder) (token : kind = "color" ∨ kind = "number" ∨ kind = "ident")
    (spelled : (n.first? kind).bind text? = some text) (split : '\n' ∈ text.toList) : tree.HasSplitToken := by
  obtain ⟨child, first, spelling⟩ := Option.bind_eq_some_iff.1 spelled
  obtain ⟨below, rfl⟩ := mem_preorder_of_first mem first
  exact ⟨child, below, token, text, spelling, split⟩

end Node

namespace Rule

theorem DeclarationOrder.Ranks.hasSplitToken {policy : Order.Policy} {tree n : Node} {rank : Order.Rank} {p : String}
    (ranks : Ranks policy n rank p) (mem : n ∈ tree.preorder) (split : '\n' ∈ p.toList) : tree.HasSplitToken := by
  have named := ranks.named
  rw [property?, Option.bind_assoc] at named
  obtain ⟨property, first, spelled⟩ := Option.bind_eq_some_iff.1 named
  exact .of_first (Node.mem_preorder_of_first mem first).1 (.inr (.inr rfl)) spelled split

/-- Only a token with a line end brings one into what a check says. -/
theorem Check.Says.hasSplitToken {c : Check} {tree : Node} {s : Site} {text : String} (visited : s ∈ c.visits tree)
    (said : c.Says s text) (split : '\n' ∈ text.toList) : tree.HasSplitToken := by
  have node := mem_preorder_of_visits visited
  cases c with
  | declarationOrder policy =>
    obtain ⟨rank, p, top, q, ranks, highest, rfl⟩ := said
    have quoted : '\n' ∈ p.toList ∨ '\n' ∈ q.toList := by simpa [toString] using split
    rcases quoted with quoted | quoted
    · exact ranks.hasSplitToken node quoted
    · -- the other name is that of a declaration before, a child of the same block
      obtain ⟨d, before, ranks⟩ := highest.exists_mem
      obtain ⟨block, kept, below⟩ := List.mem_flatMap.1 visited
      obtain ⟨after, children⟩ := Site.mem_below.1 below
      have sibling : d ∈ block.children := children ▸ List.mem_append_left _ before
      exact ranks.hasSplitToken (Node.mem_preorder_of_child sibling tree (List.mem_filter.1 kept).1) quoted
  | hexDigits =>
    obtain ⟨hex, spelled, rfl⟩ := said
    exact ⟨s.node, node, .inl (kind_of_alone visited), hex, spelled, by simpa [toString] using split⟩
  | hexCase style =>
    obtain ⟨hex, spelled, rfl⟩ := said
    have quoted : '\n' ∈ hex.toList := by
      cases style <;> simpa [toString, HexCase.Style.name] using split
    exact ⟨s.node, node, .inl (kind_of_alone visited), hex, spelled, quoted⟩
  | zeroUnit =>
    obtain ⟨number, unit, spelled, has, rfl⟩ := said
    have quoted : '\n' ∈ number.toList ∨ '\n' ∈ unit.toList := by simpa [toString] using split
    rcases quoted with quoted | quoted
    · exact .of_first node (.inr (.inl rfl)) spelled quoted
    · exact .of_first node (.inr (.inr rfl)) has quoted
  | blockSpacing wanted =>
    have said : BlockSpacing.complaint wanted = text := said
    subst said
    cases wanted <;> simp [BlockSpacing.complaint] at split

theorem Builtin.not_mem_name (b : Builtin) : '\n' ∉ b.name.toList := by
  obtain ⟨check, severity⟩ := b
  cases check with
  | declarationOrder policy => exact (by decide : '\n' ∉ DeclarationOrder.name.toList)
  | hexDigits => exact (by decide : '\n' ∉ HexDigits.name.toList)
  | hexCase style => exact (by decide : '\n' ∉ HexCase.name.toList)
  | zeroUnit => exact (by decide : '\n' ∉ ZeroUnit.name.toList)
  | blockSpacing wanted => exact (by decide : '\n' ∉ BlockSpacing.name.toList)

end Rule

namespace FileReport

/-- The report that built-in rules give on a tree, under a path without a line end. -/
def OfTree (f : FileReport) (tree : Node) : Prop :=
  ∃ (root : String) (registered : List Builtin) (config : Config) (path : String), '\n' ∉ path.toList ∧
    (Linter.ofBuiltins root registered config).lintTree path tree = .ok f

variable {f : FileReport} {tree : Node}

theorem OfTree.not_mem_path (report : f.OfTree tree) : '\n' ∉ f.path.toList := by
  obtain ⟨root, registered, config, path, free, ok⟩ := report
  rw [(Linter.lintTree_ofBuiltins_eq_ok_iff.1 ok).2]
  exact FileContext.not_mem_relativePath (by decide) (by decide) free root tree

theorem OfTree.exists_says (report : f.OfTree tree) {d : Detection} (mem : d ∈ f.messages) :
    ∃ b : Builtin, d.rule = b.name ∧ ∃ s ∈ b.check.visits tree, b.check.Says s d.message := by
  obtain ⟨root, registered, config, path, -, ok⟩ := report
  obtain ⟨works, rfl⟩ := Linter.lintTree_ofBuiltins_eq_ok_iff.1 ok
  rw [ofMessages_messages, Detection.mem_sorted] at mem
  obtain ⟨b, on, contributed⟩ := List.mem_flatMap.1 mem
  obtain ⟨⟨s, visited, -, text, said, rfl⟩, -⟩ := Linter.mem_contribution (works b on) contributed
  exact ⟨b, rfl, s, visited, said⟩

theorem OfTree.not_mem_rule (report : f.OfTree tree) {d : Detection} (mem : d ∈ f.messages) :
    '\n' ∉ d.rule.toList := by
  obtain ⟨b, named, -⟩ := report.exists_says mem
  rw [named]
  exact b.not_mem_name

theorem OfTree.hasSplitToken (report : f.OfTree tree) {d : Detection} (mem : d ∈ f.messages)
    (split : '\n' ∈ d.message.toList) : tree.HasSplitToken := by
  obtain ⟨b, -, s, visited, said⟩ := report.exists_says mem
  exact said.hasSplitToken visited split

end FileReport

namespace Report

/-- What the compact output has on a detection, without the line end. -/
def compactRecord (path : String) (d : Detection) : String :=
  s!"{path}:{d.position.line}:{d.position.column}: {d.severity.name} [{d.rule}] {d.message}"

/-- The detections of all files, in order, each with the path of its file. -/
def located (r : Report) : List (String × Detection) := r.files.flatMap fun f => f.messages.map (f.path, ·)

theorem located_map_snd (r : Report) : r.located.map Prod.snd = r.detections := by
  simp only [located, detections, List.map_flatMap, List.map_map]
  exact List.flatMap_congr fun f _ => List.map_id f.messages

theorem toList_renderCompact (r : Report) :
    r.renderCompact.toList = r.located.flatMap fun p => (compactRecord p.1 p.2).toList ++ ['\n'] := by
  rw [renderCompact, String.toList_join, located, List.flatMap_assoc, List.flatMap_assoc]
  refine List.flatMap_congr fun f _ => ?_
  rw [List.flatMap_map, List.flatMap_map]
  exact List.flatMap_congr fun d _ => String.toList_append

/-- All line ends in a record are in the message. -/
theorem count_compactRecord {path : String} {d : Detection} (free : '\n' ∉ path.toList) (named : '\n' ∉ d.rule.toList) :
    (compactRecord path d).toList.count '\n' = d.message.toList.count '\n' := by
  have severity : '\n' ∉ d.severity.name.toList := by
    cases d.severity <;> decide
  simp [compactRecord, toString, List.count_eq_zero_of_not_mem, Text.not_mem_toDigits, free, named, severity]

section Lines

variable {r : Report} (linted : ∀ f ∈ r.files, ∃ tree, f.OfTree tree)
include linted

theorem count_compactRecord_of_mem {p : String × Detection} (mem : p ∈ r.located) :
    (compactRecord p.1 p.2).toList.count '\n' = p.2.message.toList.count '\n' := by
  obtain ⟨f, file, mem⟩ := List.mem_flatMap.1 mem
  obtain ⟨d, message, rfl⟩ := List.mem_map.1 mem
  obtain ⟨tree, report⟩ := linted f file
  exact count_compactRecord report.not_mem_path (report.not_mem_rule message)

/-- The lines are as many as the detections and the line ends in their messages. -/
theorem length_closedLines_renderCompact :
    (Text.closedLines r.renderCompact.toList).length =
      r.detections.length + (r.detections.flatMap fun d => d.message.toList).count '\n' := by
  have each := fun p => count_compactRecord_of_mem (p := p) linted
  rw [Text.length_closedLines, toList_renderCompact, ← located_map_snd]
  generalize r.located = ps at each ⊢
  induction ps with
  | nil => rfl
  | cons p rest ih =>
    obtain ⟨first, later⟩ := List.forall_mem_cons.1 each
    have rest_lines := ih later
    simp only [List.flatMap_cons, List.map_cons, List.length_cons, List.count_append, List.count_singleton_self, first]
    omega

theorem closedLines_renderCompact (whole : ∀ d ∈ r.detections, '\n' ∉ d.message.toList) :
    Text.closedLines r.renderCompact.toList = r.located.map fun p => (compactRecord p.1 p.2).toList := by
  rw [toList_renderCompact]
  refine Text.closedLines_flatMap fun p mem => ?_
  rw [← List.count_eq_zero, count_compactRecord_of_mem linted mem, List.count_eq_zero]
  exact whole p.2 (located_map_snd r ▸ List.mem_map_of_mem mem)

/-- There is one line for each detection exactly when no message has a line end. -/
theorem length_closedLines_eq_iff :
    (Text.closedLines r.renderCompact.toList).length = r.detections.length ↔
      ∀ d ∈ r.detections, '\n' ∉ d.message.toList := by
  rw [length_closedLines_renderCompact linted, Nat.add_eq_left, List.count_eq_zero]
  simp only [List.mem_flatMap, not_exists, not_and]

end Lines

/-- A report that built-in rules give on files at paths without line ends: put together from reports on trees, the
outcome of a run, or one such report added to another. -/
inductive OfBuiltins : Report → Prop where
  | ofTrees {files : List FileReport} (each : ∀ f ∈ files, ∃ tree, f.OfTree tree) : OfBuiltins ⟨files⟩
  | ofRun {a : Analysis} {source : FileSource} {registered : List Builtin} {found : List (List Char)} {r : Report}
      (builtin : a.linter.rules = registered.map Builtin.rule) (discovered : a.discover source.toFileFinder = .ok found)
      (free : ∀ p ∈ found, '\n' ∉ p) (ran : a.run source = .ok r) : OfBuiltins r
  | append {r s : Report} (first : OfBuiltins r) (second : OfBuiltins s) : OfBuiltins (r.append s)

/-- Whichever way the report came about, its files are reports on trees. -/
theorem OfBuiltins.exists_ofTree {r : Report} (report : r.OfBuiltins) : ∀ f ∈ r.files, ∃ tree, f.OfTree tree := by
  induction report with
  | ofTrees each => exact each
  | @ofRun a source registered found r builtin discovered free ran =>
    intro f file
    obtain ⟨found', discovered', each⟩ := Analysis.exists_reports_of_run ran
    obtain rfl := Except.ok.inj (discovered.symm.trans discovered')
    obtain ⟨p, listed, text, tree, -, -, linted⟩ := each f file
    refine ⟨tree, a.linter.root, registered, a.linter.config, String.ofList p, ?_, ?_⟩
    · rw [String.toList_ofList]
      exact free p listed
    · rw [Linter.ofBuiltins, ← builtin]
      exact linted
  | append _ _ first second =>
    intro f file
    rcases List.mem_append.1 file with file | file
    · exact first f file
    · exact second f file

/-- **The lines of the compact output.** For every report that built-in rules give on files at paths without line
ends, the output has as many lines as there are detections and line ends in their messages. So there is one line for
each detection exactly when no message has a line end, and then the lines are the records of the detections, in the
order of the files. Each file is the report on a tree, and a message of it has a line end only where the tree has one in
a color, a number or a name. -/
theorem compact_lines_of_detections {r : Report} (report : r.OfBuiltins) :
    (Text.closedLines r.renderCompact.toList).length =
      r.detections.length + (r.detections.flatMap fun d => d.message.toList).count '\n' ∧
    ((Text.closedLines r.renderCompact.toList).length = r.detections.length ↔
      ∀ d ∈ r.detections, '\n' ∉ d.message.toList) ∧
    r.located.map Prod.snd = r.detections ∧
    ((∀ d ∈ r.detections, '\n' ∉ d.message.toList) →
      Text.closedLines r.renderCompact.toList = r.located.map fun p => (compactRecord p.1 p.2).toList) ∧
    ∀ f ∈ r.files, (∃ tree, f.OfTree tree) ∧
      ∀ tree, f.OfTree tree → ∀ d ∈ f.messages, '\n' ∈ d.message.toList → tree.HasSplitToken := by
  have linted := report.exists_ofTree
  refine ⟨length_closedLines_renderCompact linted, length_closedLines_eq_iff linted, located_map_snd r,
    closedLines_renderCompact linted, ?_⟩
  intro f file
  refine ⟨linted f file, ?_⟩
  intro tree ofTree d mem
  exact ofTree.hasSplitToken mem

section Sample

/-- A color whose text has a line end. -/
def splitColor : Node := .leaf ⟨"color", .scss, ⟨1, 1⟩, ⟨1, 2⟩, []⟩ "a\nb"

/-- The message about it, which quotes the text. -/
def splitMessage : Detection :=
  ⟨⟨1, 1⟩, "no-invalid-hex", "Hexadecimal color `#a\nb` must be 3 or 6 hex digits", .error, ⟨"color", 1, 1, 3⟩⟩

theorem ofTree_splitColor : FileReport.OfTree ⟨"a.scss", [splitMessage], 0, 1⟩ splitColor := by
  refine ⟨"/p", [⟨.hexDigits, .error⟩], {}, "/p/a.scss.json", by decide, ?_⟩
  have suppressed : Suppression.ofTree splitColor = .empty := by
    rw [Suppression.ofTree, Suppression.entriesOf, Node.descendants_eq_preorder]
    decide +kernel
  have contributed : (([⟨.hexDigits, .error⟩] : List Builtin).filter fun b => ({} : Config).enabledB b.name).flatMap (fun b =>
      Linter.contribution {} (FileContext.of "/p/a.scss.json" "/p" splitColor) .empty splitColor b.rule) = [splitMessage] := by
    simp only [Linter.contribution, Builtin.detect_eq]
    decide +kernel
  refine Linter.lintTree_ofBuiltins_eq_ok_iff.2 ⟨?_, ?_⟩
  · simp only [Builtin.detect_eq]
    decide +kernel
  · rw [suppressed, contributed, FileReport.ofMessages, Detection.sorted, List.mergeSort_singleton]
    decide +kernel

/-- The run on a color that is too short has one line. -/
theorem compact_lines_of_detections_sample :
    Report.OfBuiltins ⟨[⟨"a.scss", [Command.shortColor], 0, 1⟩]⟩ ∧
    Text.closedLines (renderCompact ⟨[⟨"a.scss", [Command.shortColor], 0, 1⟩]⟩).toList =
      ["a.scss:1:1: error [no-invalid-hex] Hexadecimal color `#ab` must be 3 or 6 hex digits".toList] := by
  have report : Report.OfBuiltins ⟨[⟨"a.scss", [Command.shortColor], 0, 1⟩]⟩ :=
    .ofRun (show Command.sampleAnalysis.linter.rules = Command.sampleRules.map Builtin.rule from rfl)
      Command.discover_sample (by decide) Command.run_sample
  obtain ⟨-, -, -, lines, -⟩ := compact_lines_of_detections report
  refine ⟨report, ?_⟩
  rw [lines (by decide)]
  decide +kernel

/-- A message with a line end takes two lines. -/
theorem compact_lines_not_one_per_detection :
    ∃ r : Report, r.OfBuiltins ∧ r.detections.length = 1 ∧
      Text.closedLines r.renderCompact.toList =
        ["a.scss:1:1: error [no-invalid-hex] Hexadecimal color `#a".toList, "b` must be 3 or 6 hex digits".toList] := by
  refine ⟨⟨[⟨"a.scss", [splitMessage], 0, 1⟩]⟩, .ofTrees ?_, rfl, by decide +kernel⟩
  intro f file
  rw [List.mem_singleton.1 file]
  exact ⟨splitColor, ofTree_splitColor⟩

end Sample
end Report
end SheetLint
