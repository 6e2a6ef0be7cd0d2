import SheetLint.Proofs.DiscoveredPaths
import SheetLint.Proofs.FileOutcomes
import SheetLint.Proofs.RemovedFiles

/-!
# Broken dumps do not affect the others

A lenient run gives what it gives once the broken files are removed from the file system
(`run_without_broken`), and a strict run differs from it only where a file is broken. The
account of both is `run_with_broken_dumps`, over every file system and every way to read
patterns.
-/

namespace SheetLint
set_option autoImplicit false

/-- The files of a file system, where `glob` says which paths a pattern stands for. -/
def FileSystem.sourceBy (fs : FileSystem) (glob : List Char → Except Glob.Error (List (List Char))) : FileSource where
  glob := glob
  isFile := fs.isFile
  read := fs.read

theorem FileSystem.sourceBy_expand (fs : FileSystem) : fs.sourceBy (Glob.expand fs) = fs.source := rfl

namespace Analysis

section Run

variable {a : Analysis} {fs : FileSystem} {glob glob' : List Char → Except Glob.Error (List (List Char))}
  {paths : List (List Char)}

/-- The same run in the given mode. -/
def inMode (a : Analysis) (strict : Bool) : Analysis := { a with strict := strict }

/-- For the include patterns of a run, `glob` and `glob'` find the same files of a file system, and what
they find beside those does not matter. -/
def FindAlike (a : Analysis) (fs : FileSystem) (glob glob' : List Char → Except Glob.Error (List (List Char))) : Prop :=
  ∀ pattern ∈ a.includes.map String.toList,
    (glob' (a.linter.root.toList ++ '/' :: pattern)).map (·.filter fs.isFile) =
      (glob (a.linter.root.toList ++ '/' :: pattern)).map (·.filter fs.isFile)

theorem run_of_discover {source : FileSource} (found : a.discover source.toFileFinder = .ok paths) :
    a.run source = (a.lintFiles source paths).map Report.mk := by
  unfold run
  rw [found]
  cases outcome : a.lintFiles source paths <;> simp [outcome, Except.map]

theorem map_mk_eq_ok_iff {outcome : Except AnalysisError (List FileReport)} {report : Report} :
    outcome.map Report.mk = .ok report ↔ outcome = .ok report.files := by
  obtain ⟨files⟩ := report
  cases outcome <;> simp [Except.map]

theorem map_mk_eq_error_iff {outcome : Except AnalysisError (List FileReport)} {e : AnalysisError} :
    outcome.map Report.mk = .error e ↔ outcome = .error e := by
  cases outcome <;> simp [Except.map]

/-- The mode makes no difference where no file is broken. -/
theorem lintFiles_inMode {source : FileSource} (whole : ∀ p ∈ paths, source.brokenB p = false) :
    (a.inMode true).lintFiles source paths = (a.inMode false).lintFiles source paths := by
  cases outcome : (a.inMode false).lintFiles source paths with
  | error e =>
    have first : a.linter.FirstFails source paths e :=
      (lintFiles_eq_error_iff (a := a.inMode false) whole).1 outcome
    exact (lintFiles_eq_error_iff whole).2 first
  | ok reports =>
    have all : List.Forall₂ (a.linter.Reports source) paths reports :=
      (lintFiles_eq_ok_iff (a := a.inMode false) whole).1 outcome
    exact (lintFiles_eq_ok_iff whole).2 all

/-- Of the files discovered, those that are gone with the broken ones are the broken ones. -/
theorem goneB_broken (files : ∀ p ∈ paths, fs.isFile p = true) {p : List Char} (mem : p ∈ paths) :
    fs.goneB (paths.filter (fs.sourceBy glob).brokenB) p = (fs.sourceBy glob).brokenB p := by
  rw [Bool.eq_iff_iff, FileSystem.goneB_iff]
  constructor
  · rintro ⟨names, located, q, listed, located'⟩
    have same : fs.read p = fs.read q := by rw [FileSystem.read, FileSystem.read, located, located']
    rw [FileSource.brokenB, show (fs.sourceBy glob).read p = fs.read q from same]
    exact (List.mem_filter.1 listed).2
  · intro broken
    obtain ⟨names, -, located, -⟩ := FileSystem.isFile_iff.1 (files p mem)
    exact ⟨names, located, p, List.mem_filter.2 ⟨mem, broken⟩, located⟩

/-- Once the broken files are removed, the others are discovered. -/
theorem discover_without_broken (found : a.discover (fs.sourceBy glob).toFileFinder = .ok paths)
    (alike : a.FindAlike (fs.without (paths.filter (fs.sourceBy glob).brokenB)) glob glob') :
    a.discover ((fs.without (paths.filter (fs.sourceBy glob).brokenB)).sourceBy glob').toFileFinder =
      .ok (paths.filter fun p => !(fs.sourceBy glob).brokenB p) := by
  have files : ∀ p ∈ paths, fs.isFile p = true := fun p mem => Discovery.isFile_of_discover found mem
  have removed : ∀ p ∈ paths.filter (fs.sourceBy glob).brokenB, fs.isFile p = true :=
    fun p mem => files p (List.mem_filter.1 mem).1
  have left : a.discover ((fs.without (paths.filter (fs.sourceBy glob).brokenB)).sourceBy glob').toFileFinder =
      (a.discover (fs.sourceBy glob).toFileFinder).map
        (·.filter fun p => !fs.goneB (paths.filter (fs.sourceBy glob).brokenB) p) := by
    refine Discovery.discover_of_removed (FileSystem.isFile_without removed) alike fun p q file file' same => ?_
    exact FileSystem.goneB_of_same file file' same
  rw [left, found]
  refine congrArg Except.ok (List.filter_congr fun p mem => ?_)
  rw [goneB_broken files mem]

/-- A lenient run gives the same after the broken files are removed. -/
theorem run_without_broken (found : a.discover (fs.sourceBy glob).toFileFinder = .ok paths)
    (alike : a.FindAlike (fs.without (paths.filter (fs.sourceBy glob).brokenB)) glob glob') :
    (a.inMode false).run (fs.sourceBy glob) =
      (a.inMode false).run ((fs.without (paths.filter (fs.sourceBy glob).brokenB)).sourceBy glob') := by
  have left := discover_without_broken found alike
  rw [run_of_discover (a := a.inMode false) found, run_of_discover (a := a.inMode false) left,
    lintFiles_of_lenient rfl]
  refine congrArg (Except.map Report.mk) (lintFiles_congr fun p mem => ?_).symm
  refine FileSystem.read_without (fun q listed => ?_) (Discovery.isFile_of_discover left mem)
  exact Discovery.isFile_of_discover found (List.mem_filter.1 listed).1

/-- **Broken dumps do not affect the others.** Discovered paths are strictly increasing. A lenient run gives
what it gives once the discovered files that are text but no dumps are removed; it succeeds with one report
for each file that is left, in order of the paths, each made from the tree of that file alone, or fails where
the first of these files fails. A strict run gives the same where no file is broken. Otherwise it fails, at the
first broken file unless a file before that fails. -/
theorem run_with_broken_dumps (a : Analysis) (fs : FileSystem)
    (glob : List Char → Except Glob.Error (List (List Char))) :
    let source := fs.sourceBy glob
    (∀ cause, a.discover source.toFileFinder = .error cause →
      ∀ strict, (a.inMode strict).run source = .error (.badPattern cause)) ∧
    ∀ paths, a.discover source.toFileFinder = .ok paths →
      let left := fs.without (paths.filter source.brokenB)
      let others := paths.filter fun p => !source.brokenB p
      Path.Increasing paths ∧
      (∀ glob', a.FindAlike left glob glob' →
        a.discover (left.sourceBy glob').toFileFinder = .ok others ∧
        (a.inMode false).run source = (a.inMode false).run (left.sourceBy glob')) ∧
      (∀ report, (a.inMode false).run source = .ok report ↔
        List.Forall₂ (a.linter.Reports source) others report.files) ∧
      (∀ e, (a.inMode false).run source = .error e ↔ a.linter.FirstFails source others e) ∧
      ((∀ p ∈ paths, source.brokenB p = false) → (a.inMode true).run source = (a.inMode false).run source) ∧
      ∀ before path after, paths = before ++ path :: after → (∀ p ∈ before, source.brokenB p = false) →
        source.brokenB path = true →
        ∃ e, (a.inMode true).run source = .error e ∧
          (a.linter.FirstFails source before e ∨
            (∃ reports, List.Forall₂ (a.linter.Reports source) before reports) ∧
              e = .invalidDump (String.ofList path)) := by
  intro source
  constructor
  · intro cause bad strict
    have bad' : (a.inMode strict).discover source.toFileFinder = .error cause := bad
    rw [run, bad']
  intro paths found left others
  have run_eq (strict : Bool) : (a.inMode strict).run source =
      ((a.inMode strict).lintFiles source paths).map Report.mk := run_of_discover found
  have lenient : (a.inMode false).lintFiles source paths = (a.inMode false).lintFiles source others :=
    lintFiles_of_lenient rfl
  have whole : ∀ p ∈ others, source.brokenB p = false := by
    intro p mem
    simpa using (List.mem_filter.1 mem).2
  refine ⟨Discovery.discover_increasing found, ?_, ?_, ?_, ?_, ?_⟩
  · intro glob' alike
    exact ⟨discover_without_broken found alike, run_without_broken found alike⟩
  · intro report
    rw [run_eq, lenient, map_mk_eq_ok_iff]
    exact lintFiles_eq_ok_iff whole
  · intro e
    rw [run_eq, lenient, map_mk_eq_error_iff]
    exact lintFiles_eq_error_iff whole
  · intro none_broken
    rw [run_eq, run_eq, lintFiles_inMode none_broken]
  · rintro before path after rfl whole_before broken
    obtain ⟨e, fails, first⟩ := lintFiles_of_strict (a := a.inMode true) rfl whole_before broken
    refine ⟨e, ?_, first⟩
    rw [run_eq, map_mk_eq_error_iff]
    exact fails

end Run

section Sample

/-- The dump of a leaf. -/
def sampleText : String := "[\"x\",\"\",\"scss\",[1,1],[1,1]]"

/-- A directory with a file that is no dump and one that is the dump of a leaf. -/
def sampleFiles : FileSystem where
  root := .directory [("p", .directory [("a.scss.json", .file "[1]".toUTF8), ("b.scss.json", .file sampleText.toUTF8)])]
  workDir := []

/-- A lenient run without rules over the dumps in a directory. -/
def sampleRun : Analysis := ⟨⟨"/p", [], {}⟩, ["*.json"], [], false⟩

/-- The file that is no dump. -/
def brokenPath : List Char := "/p/a.scss.json".toList

/-- The file that is one. -/
def dumpPath : List Char := "/p/b.scss.json".toList

theorem discover_sample : sampleRun.discover sampleFiles.source.toFileFinder = .ok [brokenPath, dumpPath] := by
  refine Discovery.discover_eq_ok_iff.2 ⟨[brokenPath, dumpPath], by decide +kernel, ?_⟩
  have kept : ([brokenPath, dumpPath].filter fun p =>
      sampleFiles.isFile p && !([] : List (List Char)).any (Discovery.rejectsB p)) = [brokenPath, dumpPath] := by
    decide +kernel
  have order : Path.leB brokenPath dumpPath = true := by decide +kernel
  have apart : Path.sameB brokenPath dumpPath = false := by decide +kernel
  refine (congrArg (fun ps => Discovery.dropRepeats (ps.mergeSort Path.leB)) kept).trans ?_
  simp [List.mergeSort, List.MergeSort.Internal.splitInTwo, order, Discovery.dropRepeats, apart]

theorem brokenB_sample :
    sampleFiles.source.brokenB brokenPath = true ∧ sampleFiles.source.brokenB dumpPath = false := by
  decide +kernel

theorem reports_sample : sampleRun.linter.Reports sampleFiles.source dumpPath ⟨"b.scss", [], 0, 0⟩ := by
  refine ⟨sampleText, .leaf ⟨"x", .scss, ⟨1, 1⟩, ⟨1, 1⟩, []⟩ "", by decide +kernel, ?_, by decide +kernel⟩
  have tokens : Json.Token.scan? sampleText.toList =
      some [.openArray, .text ['x'], .comma, .text [], .comma, .text "scss".toList, .comma,
        .openArray, .number ['1'], .comma, .number ['1'], .closeArray, .comma,
        .openArray, .number ['1'], .comma, .number ['1'], .closeArray, .closeArray] := by
    decide +kernel
  rw [Node.read?, Json.read?, tokens]
  rfl

/-- In a lenient run the report is on the dump, before and after the other file is removed; a strict run
fails at the other file. -/
theorem run_with_broken_dumps_sample :
    (sampleRun.inMode false).run sampleFiles.source = .ok ⟨[⟨"b.scss", [], 0, 0⟩]⟩ ∧
    (sampleRun.inMode false).run (sampleFiles.without [brokenPath]).source = .ok ⟨[⟨"b.scss", [], 0, 0⟩]⟩ ∧
    (sampleRun.inMode true).run sampleFiles.source = .error (.invalidDump "/p/a.scss.json") := by
  obtain ⟨broken, whole⟩ := brokenB_sample
  obtain ⟨-, removed, ok, -, -, strict⟩ :=
    (run_with_broken_dumps sampleRun sampleFiles (Glob.expand sampleFiles)).2 _ discover_sample
  have gone : [brokenPath, dumpPath].filter sampleFiles.source.brokenB = [brokenPath] := by simp [broken, whole]
  have left : ([brokenPath, dumpPath].filter fun p => !sampleFiles.source.brokenB p) = [dumpPath] := by
    simp [broken, whole]
  have alike : sampleRun.FindAlike (sampleFiles.without [brokenPath]) (Glob.expand sampleFiles)
      (Glob.expand (sampleFiles.without [brokenPath])) := by
    intro pattern mem
    cases List.mem_singleton.1 mem
    decide +kernel
  simp only [FileSystem.sourceBy_expand, gone, left] at removed ok strict
  have lenient := (ok ⟨[⟨"b.scss", [], 0, 0⟩]⟩).2 (.cons reports_sample .nil)
  refine ⟨lenient, ?_, ?_⟩
  · rw [← FileSystem.sourceBy_expand, ← (removed _ alike).2]
    exact lenient
  · obtain ⟨e, fails, ⟨before, path, after, -, split, -⟩ | ⟨-, rfl⟩⟩ := strict [] brokenPath [dumpPath] rfl nofun broken
    · exact absurd split (by simp)
    · exact fails

end Sample

end Analysis
end SheetLint
