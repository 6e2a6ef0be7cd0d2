import SheetLint.Command
import SheetLint.Proofs.BuiltinOutcome
import SheetLint.Proofs.FileOutcomes

/-!
# The counts of a report

The report on a file stores how many of its messages are errors and how many are warnings.
Everything that is told about a whole run is put together from these numbers: its counts, the
summary, whether it found an error, the exit status. `FileReport.Counted` says that the stored
numbers are those of the messages. It holds of every report that is made from messages, and
joining reports keeps it, so all of these agree with the messages that are shown.
-/

namespace SheetLint
set_option autoImplicit false

/-- The stored counts are those of the messages. -/
structure FileReport.Counted (f : FileReport) : Prop where
  errors : f.errorCount = f.messages.countP (·.severity == .error)
  warnings : f.warningCount = f.messages.countP (·.severity == .warning)

theorem FileReport.counted_ofMessages (path : String) (ds : List Detection) : (ofMessages path ds).Counted where
  errors := rfl
  warnings := by
    rw [ofMessages_warningCount, ofMessages_messages]
    apply List.countP_congr
    intro d _
    cases d.severity <;> decide

namespace Report

/-- A report put together from reports on files, all at once or by adding one report to another. -/
inductive Assembled : Report → Prop where
  | ofFiles (parts : List (String × List Detection)) : Assembled ⟨parts.map fun p => .ofMessages p.1 p.2⟩
  | append {r s : Report} (first : Assembled r) (second : Assembled s) : Assembled (r.append s)

/-- How many messages of a severity the report has. -/
def messageCount (r : Report) (severity : Severity) : Nat := r.detections.countP (·.severity == severity)

/-- The entries of the text output on the messages of a file: one for each, in order. -/
inductive Entries : List Detection → String → Prop where
  | nil : Entries [] ""
  | cons {m : Detection} {ms : List Detection} {out : String} (rest : Entries ms out) :
    Entries (m :: ms)
      (s!"  {m.position.line}:{m.position.column}  {m.severity.paint.apply m.severity.name}  {m.message}  {m.rule}\n" ++ out)

/-- The sections of the text output on files: one for each file with a message, in order. -/
inductive Sections : List FileReport → String → Prop where
  | nil : Sections [] ""
  | silent {f : FileReport} {fs : List FileReport} {out : String} (none : f.messages = []) (rest : Sections fs out) :
    Sections (f :: fs) out
  | file {f : FileReport} {fs : List FileReport} {entries out : String} (some : f.messages ≠ [])
    (each : Entries f.messages entries) (rest : Sections fs out) :
    Sections (f :: fs) (Paint.underline.apply f.path ++ "\n" ++ entries ++ "\n" ++ out)

section Sums

variable {count : FileReport → Nat}

theorem sum_append (fs gs : List FileReport) :
    (fs ++ gs).foldr (fun f n => count f + n) 0 =
      fs.foldr (fun f n => count f + n) 0 + gs.foldr (fun f n => count f + n) 0 := by
  induction fs with
  | nil => simp
  | cons f fs ih =>
    simp only [List.cons_append, List.foldr_cons, ih]
    omega

/-- Numbers that count messages file by file add up to those of all messages. -/
theorem sum_eq_countP {p : Detection → Bool} {fs : List FileReport}
    (each : ∀ f ∈ fs, count f = f.messages.countP p) :
    fs.foldr (fun f n => count f + n) 0 = (fs.flatMap FileReport.messages).countP p := by
  induction fs with
  | nil => rfl
  | cons f fs ih =>
    obtain ⟨first, later⟩ := List.forall_mem_cons.1 each
    rw [List.foldr_cons, first, ih later, List.flatMap_cons, List.countP_append]

end Sums

section Counted

variable {r : Report}

theorem Assembled.counted (assembled : r.Assembled) : ∀ f ∈ r.files, f.Counted := by
  induction assembled with
  | ofFiles parts =>
    intro f mem
    obtain ⟨p, -, rfl⟩ := List.mem_map.1 mem
    exact FileReport.counted_ofMessages p.1 p.2
  | append _ _ first second =>
    intro f mem
    rcases List.mem_append.1 mem with mem | mem
    · exact first f mem
    · exact second f mem

/-- A report all of whose files are made from messages is put together from them. -/
theorem assembled_of_forall {files : List FileReport} (each : ∀ f ∈ files, ∃ path ds, f = .ofMessages path ds) :
    Assembled ⟨files⟩ := by
  induction files with
  | nil => exact Assembled.ofFiles []
  | cons f rest ih =>
    obtain ⟨⟨path, ds, rfl⟩, later⟩ := List.forall_mem_cons.1 each
    exact Assembled.append (.ofFiles [(path, ds)]) (ih later)

variable (counted : ∀ f ∈ r.files, f.Counted)
include counted

theorem errorCount_eq : r.errorCount = r.messageCount .error :=
  sum_eq_countP fun f mem => (counted f mem).errors

theorem warningCount_eq : r.warningCount = r.messageCount .warning :=
  sum_eq_countP fun f mem => (counted f mem).warnings

theorem hasErrors_iff : r.hasErrors = true ↔ ∃ f ∈ r.files, ∃ m ∈ f.messages, m.severity = .error := by
  unfold hasErrors
  rw [List.any_eq_true]
  apply exists_congr
  intro f
  apply and_congr_right
  intro mem
  rw [FileReport.hasErrors, decide_eq_true_eq, (counted f mem).errors, List.countP_pos_iff]
  simp only [beq_iff_eq]

end Counted

/-- Every message is an error or a warning. -/
theorem messageCount_add (r : Report) : r.messageCount .error + r.messageCount .warning = r.detections.length := by
  have other : r.messageCount .warning = r.detections.countP fun d => !(d.severity == .error) := by
    apply List.countP_congr
    intro d _
    cases d.severity <;> decide
  rw [other, messageCount]
  have split := List.length_eq_countP_add_countP (p := fun d : Detection => d.severity == .error) (l := r.detections)
  simp only [Bool.not_eq_true, Bool.decide_eq_false] at split
  exact split.symm

section Text

theorem entries_textEntry (ms : List Detection) : Entries ms (String.join (ms.map textEntry)) := by
  induction ms with
  | nil => exact Entries.nil
  | cons m ms ih =>
    rw [List.map_cons, String.join_cons]
    exact Entries.cons ih

theorem sections_textSection (fs : List FileReport) :
    Sections fs (String.join ((fs.filter fun f => !f.messages.isEmpty).map textSection)) := by
  induction fs with
  | nil => exact Sections.nil
  | cons f fs ih =>
    by_cases none : f.messages = []
    · rw [List.filter_cons_of_neg (by simp [none])]
      exact Sections.silent none ih
    · rw [List.filter_cons_of_pos (by simpa using none), List.map_cons, String.join_cons]
      exact Sections.file none (entries_textEntry f.messages) ih

/-- The text output is the sections on the files and the summary line, with the numbers of messages. -/
theorem renderText_eq {r : Report} (counted : ∀ f ∈ r.files, f.Counted) :
    ∃ sections, Sections r.files sections ∧
      r.renderText = sections ++ r.summaryPaint.apply
        s!"Found {r.messageCount .error} error(s), {r.messageCount .warning} warning(s) in {r.files.length} file(s)" ++
          "\n" := by
  refine ⟨_, sections_textSection r.files, ?_⟩
  rw [← errorCount_eq counted, ← warningCount_eq counted]
  rfl

end Text
end Report

namespace Analysis

variable {a : Analysis} {source : FileSource}

theorem ofMessages_of_reports {path : List Char} {f : FileReport} (reports : a.linter.Reports source path f) :
    ∃ p ds, f = .ofMessages p ds := by
  obtain ⟨text, tree, -, -, ok⟩ := reports
  exact ⟨_, _, (Linter.lintTree_eq_ok_iff.1 ok).2⟩

/-- The report on a run is put together from the reports on its files. -/
theorem run_assembled {r : Report} (ok : a.run source = .ok r) : r.Assembled := by
  obtain ⟨found, -, each⟩ := exists_reports_of_run ok
  refine Report.assembled_of_forall fun f mem => ?_
  obtain ⟨p, -, reports⟩ := each f mem
  exact ofMessages_of_reports reports

end Analysis

namespace Command

theorem check_assembled {fs : FileSystem} {source : ConfigSource} {options : CheckOptions} {r : Report}
    (ok : check fs source options = .ok r) : r.Assembled := by
  unfold check at ok
  split at ok
  · cases ok
  · split at ok
    · cases ok
    · next ran =>
      cases ok
      exact Analysis.run_assembled ran

/-- A check that prints a report exits by whether the report has an error. -/
theorem run_of_check {fs : FileSystem} {env : Environment} {arguments : List String} {named : Option String}
    {options : CheckOptions} {r : Report} (asked : parse env.config arguments = .ok ⟨named, .check options⟩)
    (ok : check fs (checkSource fs env named options) options = .ok r) :
    run fs env arguments =
      { exit := if r.hasErrors then 1 else 0, output := r.render options.format, files := fs } := by
  simp only [run, asked, perform, ok]

end Command

/-- **All counts agree with the messages.** Of every report put together from reports on files, the numbers of
errors and warnings are those of its messages and add up to all of them, it counts as having errors exactly when
some message of some file is one, and adding a report to it adds the counts. Its text output has one section for
each file with a message, with one entry for each message in order, and a summary line with these numbers and the
number of files. Every report that an analysis gives is of this kind, and a check that prints it exits with 1 when
some message of it is an error and with 0 when none is. -/
theorem Report.counts_agree_with_messages :
    (∀ r : Report, r.Assembled →
      r.errorCount = r.messageCount .error ∧ r.warningCount = r.messageCount .warning ∧
      r.errorCount + r.warningCount = r.detections.length ∧
      (r.hasErrors = true ↔ ∃ f ∈ r.files, ∃ m ∈ f.messages, m.severity = .error) ∧
      (∀ s : Report, (r.append s).errorCount = r.errorCount + s.errorCount ∧
        (r.append s).warningCount = r.warningCount + s.warningCount) ∧
      ∃ sections, Sections r.files sections ∧
        r.renderText = sections ++ r.summaryPaint.apply
          s!"Found {r.messageCount .error} error(s), {r.messageCount .warning} warning(s) in {r.files.length} file(s)" ++
            "\n") ∧
    (∀ (a : Analysis) (source : FileSource) (r : Report), a.run source = .ok r → r.Assembled) ∧
    ∀ (fs : FileSystem) (env : Environment) (arguments : List String) (named : Option String)
      (options : Command.CheckOptions) (r : Report),
      Command.parse env.config arguments = .ok ⟨named, .check options⟩ →
      Command.check fs (Command.checkSource fs env named options) options = .ok r →
      (Command.run fs env arguments).output = r.render options.format ∧
      ((∃ m ∈ r.detections, m.severity = .error) → (Command.run fs env arguments).exit = 1) ∧
      ((∀ m ∈ r.detections, m.severity ≠ .error) → (Command.run fs env arguments).exit = 0) := by
  refine ⟨?_, fun a source r ok => Analysis.run_assembled ok, ?_⟩
  · intro r assembled
    have counted := assembled.counted
    refine ⟨errorCount_eq counted, warningCount_eq counted, ?_, hasErrors_iff counted, ?_, renderText_eq counted⟩
    · rw [errorCount_eq counted, warningCount_eq counted]
      exact messageCount_add r
    · intro s
      exact ⟨sum_append r.files s.files, sum_append r.files s.files⟩
  · intro fs env arguments named options r asked ok
    have errors := hasErrors_iff (Command.check_assembled ok).counted
    have among : (∃ m ∈ r.detections, m.severity = .error) ↔ ∃ f ∈ r.files, ∃ m ∈ f.messages, m.severity = .error := by
      simp only [detections, List.mem_flatMap]
      constructor
      · rintro ⟨m, ⟨f, file, mem⟩, error⟩
        exact ⟨f, file, m, mem, error⟩
      · rintro ⟨f, file, m, mem, error⟩
        exact ⟨m, ⟨f, file, mem⟩, error⟩
    rw [← among] at errors
    rw [Command.run_of_check asked ok]
    refine ⟨rfl, ?_, ?_⟩
    · intro found
      exact if_pos (errors.2 found)
    · intro none
      have clean : ¬ r.hasErrors = true := by
        intro has
        obtain ⟨m, mem, error⟩ := errors.1 has
        exact none m mem error
      exact if_neg clean

section Sample

namespace Command

/-- The dump of a color that is too short. -/
def sampleDump : String := "[\"color\",\"ab\",\"scss\",[1,1],[1,2]]"

/-- A directory with the dump of a color that is too short. -/
def sampleFiles : FileSystem where
  root := .directory [("p", .directory [("a.scss.json", .file sampleDump.toUTF8)])]
  workDir := []

/-- A check of one directory. -/
def sampleOptions : CheckOptions := { path := some "/p" }

/-- The built-in rules with their default options. -/
def sampleRules : List Rule.Builtin :=
  [⟨.declarationOrder .alphabetical, .warning⟩, ⟨.hexDigits, .error⟩, ⟨.hexCase .lowercase, .warning⟩,
    ⟨.zeroUnit, .warning⟩, ⟨.blockSpacing true, .warning⟩]

/-- The run that this check plans. -/
def sampleAnalysis : Analysis := ⟨⟨"/p", Rule.all, {}⟩, ["**/*.json"], ["**/node_modules/**"], false⟩

/-- The message about the color. -/
def shortColor : Detection :=
  ⟨⟨1, 1⟩, "no-invalid-hex", "Hexadecimal color `#ab` must be 3 or 6 hex digits", .error, ⟨"color", 1, 1, 2⟩⟩

theorem parse_sample : parse none ["check", "/p"] = .ok ⟨none, .check sampleOptions⟩ := by
  decide +kernel

theorem planCheck_sample :
    planCheck sampleFiles (checkSource sampleFiles {} none sampleOptions) sampleOptions = .ok sampleAnalysis :=
  rfl

theorem discover_sample :
    sampleAnalysis.discover sampleFiles.source.toFileFinder = .ok ["/p/a.scss.json".toList] := by
  have found : Discovery.globAll sampleFiles.source.toFileFinder "/p".toList ["**/*.json".toList] =
      .ok ["/p/a.scss.json".toList] := by decide +kernel
  have kept : (["/p/a.scss.json".toList].filter fun p =>
      sampleFiles.isFile p && !(["**/node_modules/**".toList].any (Discovery.rejectsB p))) = ["/p/a.scss.json".toList] := by
    decide +kernel
  show Discovery.discover _ "/p".toList ["**/*.json".toList] ["**/node_modules/**".toList] = _
  unfold Discovery.discover
  rw [found]
  refine congrArg Except.ok ?_
  refine (congrArg (fun ps => Discovery.dropRepeats (ps.mergeSort Path.leB)) kept).trans ?_
  rw [List.mergeSort_singleton, Discovery.dropRepeats]

theorem lintTree_short_color :
    sampleAnalysis.linter.lintTree "/p/a.scss.json" (.leaf ⟨"color", .scss, ⟨1, 1⟩, ⟨1, 2⟩, []⟩ "ab") =
      .ok ⟨"a.scss", [shortColor], 0, 1⟩ := by
  have suppressed : Suppression.ofTree (.leaf ⟨"color", .scss, ⟨1, 1⟩, ⟨1, 2⟩, []⟩ "ab") = .empty := by
    rw [Suppression.ofTree, Suppression.entriesOf, Node.descendants_eq_preorder]
    decide +kernel
  have contributed : ((sampleRules.filter fun b => ({} : Config).enabledB b.name).flatMap fun b =>
      Linter.contribution {} (FileContext.of "/p/a.scss.json" "/p" (.leaf ⟨"color", .scss, ⟨1, 1⟩, ⟨1, 2⟩, []⟩ "ab")) .empty
        (.leaf ⟨"color", .scss, ⟨1, 1⟩, ⟨1, 2⟩, []⟩ "ab") b.rule) = [shortColor] := by
    simp only [Linter.contribution, Rule.Builtin.detect_eq]
    decide +kernel
  show (Linter.ofBuiltins "/p" sampleRules {}).lintTree _ _ = _
  refine Linter.lintTree_ofBuiltins_eq_ok_iff.2 ⟨?_, ?_⟩
  · simp only [Rule.Builtin.detect_eq]
    decide +kernel
  · rw [suppressed, contributed, FileReport.ofMessages, Detection.sorted, List.mergeSort_singleton]
    decide +kernel

theorem run_sample :
    sampleAnalysis.run sampleFiles.source = .ok ⟨[⟨"a.scss", [shortColor], 0, 1⟩]⟩ := by
  have reports : sampleAnalysis.linter.Reports sampleFiles.source "/p/a.scss.json".toList ⟨"a.scss", [shortColor], 0, 1⟩ := by
    refine ⟨sampleDump, _, by decide +kernel, ?_, lintTree_short_color⟩
    have tokens : Json.Token.scan? sampleDump.toList =
        some [.openArray, .text "color".toList, .comma, .text "ab".toList, .comma, .text "scss".toList, .comma,
          .openArray, .number ['1'], .comma, .number ['1'], .closeArray, .comma,
          .openArray, .number ['1'], .comma, .number ['2'], .closeArray, .closeArray] := by
      decide +kernel
    rw [Node.read?, Json.read?, tokens]
    rfl
  have linted : sampleAnalysis.lintFiles sampleFiles.source ["/p/a.scss.json".toList] =
      .ok [⟨"a.scss", [shortColor], 0, 1⟩] := by
    rw [Analysis.lintFiles_cons_of_reports reports]
    rfl
  simp only [Analysis.run, discover_sample, linted]

theorem check_sample :
    check sampleFiles (checkSource sampleFiles {} none sampleOptions) sampleOptions =
      .ok ⟨[⟨"a.scss", [shortColor], 0, 1⟩]⟩ := by
  unfold check
  rw [planCheck_sample]
  simp only [run_sample]

end Command

/-- The check on a color that is too short exits with 1, and its report is put together from one on a file; added
to itself it counts two errors. -/
theorem Report.counts_agree_with_messages_sample :
    (⟨[⟨"a.scss", [Command.shortColor], 0, 1⟩]⟩ : Report).Assembled ∧
    (Command.run Command.sampleFiles {} ["check", "/p"]).exit = 1 ∧
    (Report.append ⟨[⟨"a.scss", [Command.shortColor], 0, 1⟩]⟩ ⟨[⟨"a.scss", [Command.shortColor], 0, 1⟩]⟩).errorCount = 2 := by
  obtain ⟨counts, assembled, exits⟩ := Report.counts_agree_with_messages
  have one : (⟨[⟨"a.scss", [Command.shortColor], 0, 1⟩]⟩ : Report).Assembled := Command.check_assembled Command.check_sample
  refine ⟨one, ?_, ?_⟩
  · exact (exits Command.sampleFiles {} ["check", "/p"] none Command.sampleOptions _ Command.parse_sample
      Command.check_sample).2.1 ⟨Command.shortColor, List.mem_singleton_self _, rfl⟩
  · obtain ⟨-, -, -, -, adds, -⟩ := counts _ one
    exact (adds _).1

end Sample
end SheetLint
