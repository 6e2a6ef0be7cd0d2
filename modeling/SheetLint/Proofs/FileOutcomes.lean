import Mathlib.Data.List.Forall2
import SheetLint.Analysis

/-!
# What comes of each file

A file is broken when it is text but no dump. Any other file is reported on or fails,
and a list of such files is reported on or fails where the first of them does
(`lintFiles_eq_ok_iff`, `lintFiles_eq_error_iff`). With broken files among them a lenient
run goes as if those were not there (`lintFiles_of_lenient`), a strict one goes up to the
first of them (`lintFiles_of_strict`).
-/

namespace SheetLint
set_option autoImplicit false

/-- Whether the file at a path is text, but no dump. -/
def FileSource.brokenB (source : FileSource) (path : List Char) : Bool :=
  match source.read path with
  | .ok text => (Node.read? text).isNone
  | .error _ => false

theorem FileSource.brokenB_iff {source : FileSource} {path : List Char} :
    source.brokenB path = true ↔ ∃ text, source.read path = .ok text ∧ Node.read? text = none := by
  unfold brokenB
  cases source.read path <;> simp

namespace Linter

/-- The file at a path holds the dump of a tree, and this is the report on that tree alone. -/
def Reports (l : Linter) (source : FileSource) (path : List Char) (report : FileReport) : Prop :=
  ∃ text tree, source.read path = .ok text ∧ Node.read? text = some tree ∧
    l.lintTree (String.ofList path) tree = .ok report

/-- The file at a path cannot be read, or a rule fails on the tree that it holds. -/
inductive Fails (l : Linter) (source : FileSource) (path : List Char) : AnalysisError → Prop where
  | unreadable {cause : FileError} (unread : source.read path = .error cause) : Fails l source path (.unreadable cause)
  | ruleFailed {text : String} {tree : Node} {failure : RuleFailure} (read : source.read path = .ok text)
      (dump : Node.read? text = some tree) (fails : l.lintTree (String.ofList path) tree = .error failure) :
      Fails l source path (.ruleFailed failure)

/-- One of the files fails, and there are reports on those before it. -/
def FirstFails (l : Linter) (source : FileSource) (paths : List (List Char)) (e : AnalysisError) : Prop :=
  ∃ before path after reports, paths = before ++ path :: after ∧ List.Forall₂ (l.Reports source) before reports ∧
    l.Fails source path e

variable {l : Linter} {source : FileSource} {path : List Char}

/-- A file is broken, it fails, or there is a report on it. -/
theorem broken_or_fails_or_reports (l : Linter) (source : FileSource) (path : List Char) :
    source.brokenB path = true ∨ (∃ e, l.Fails source path e) ∨ ∃ report, l.Reports source path report := by
  cases read : source.read path with
  | error cause => exact .inr (.inl ⟨_, .unreadable read⟩)
  | ok text =>
    cases dump : Node.read? text with
    | none => exact .inl (FileSource.brokenB_iff.2 ⟨text, read, dump⟩)
    | some tree =>
      cases outcome : l.lintTree (String.ofList path) tree with
      | error failure => exact .inr (.inl ⟨_, .ruleFailed read dump outcome⟩)
      | ok report => exact .inr (.inr ⟨report, text, tree, read, dump, outcome⟩)

theorem fails_or_reports (l : Linter) (whole : source.brokenB path = false) :
    (∃ e, l.Fails source path e) ∨ ∃ report, l.Reports source path report := by
  rcases l.broken_or_fails_or_reports source path with broken | other
  · rw [whole] at broken
    cases broken
  · exact other

theorem Reports.not_broken {report : FileReport} (reports : l.Reports source path report) :
    source.brokenB path = false := by
  obtain ⟨text, tree, read, dump, -⟩ := reports
  simp [FileSource.brokenB, read, dump]

theorem Fails.not_broken {e : AnalysisError} (fails : l.Fails source path e) : source.brokenB path = false := by
  cases fails with
  | unreadable unread => simp [FileSource.brokenB, unread]
  | ruleFailed read dump fails => simp [FileSource.brokenB, read, dump]

end Linter

namespace Analysis
open Linter (FirstFails)

section LintFile

variable {a : Analysis} {source : FileSource} {path : List Char}

theorem lintFile_of_broken (broken : source.brokenB path = true) :
    a.lintFile source path = .error (.invalidDump (String.ofList path)) := by
  obtain ⟨text, read, none⟩ := FileSource.brokenB_iff.1 broken
  simp [lintFile, read, none]

theorem lintFile_of_reports {report : FileReport} (reports : a.linter.Reports source path report) :
    a.lintFile source path = .ok report := by
  obtain ⟨text, tree, read, dump, ok⟩ := reports
  simp [lintFile, read, dump, ok]

theorem lintFile_of_fails {e : AnalysisError} (fails : a.linter.Fails source path e) :
    a.lintFile source path = .error e := by
  cases fails with
  | unreadable unread => simp [lintFile, unread]
  | ruleFailed read dump fails => simp [lintFile, read, dump, fails]

theorem not_reports_of_fails {e : AnalysisError} (fails : a.linter.Fails source path e) (report : FileReport) :
    ¬ a.linter.Reports source path report := by
  intro reports
  have both := (lintFile_of_fails fails).symm.trans (lintFile_of_reports reports)
  cases both

end LintFile

section LintFiles

variable {a : Analysis} {source : FileSource} {path : List Char} {rest paths : List (List Char)}

theorem lintFiles_cons_of_broken (broken : source.brokenB path = true) :
    a.lintFiles source (path :: rest) =
      if a.strict then .error (.invalidDump (String.ofList path)) else a.lintFiles source rest := by
  rw [lintFiles, lintFile_of_broken broken]

theorem lintFiles_cons_of_reports {report : FileReport} (reports : a.linter.Reports source path report) :
    a.lintFiles source (path :: rest) = (a.lintFiles source rest).map (report :: ·) := by
  rw [lintFiles, lintFile_of_reports reports]
  cases a.lintFiles source rest <;> rfl

theorem lintFiles_cons_of_fails {e : AnalysisError} (fails : a.linter.Fails source path e) :
    a.lintFiles source (path :: rest) = .error e := by
  rw [lintFiles, lintFile_of_fails fails]
  cases fails <;> rfl

/-- A lenient run passes over broken files. -/
theorem lintFiles_of_lenient (lenient : a.strict = false) :
    a.lintFiles source paths = a.lintFiles source (paths.filter fun p => !source.brokenB p) := by
  induction paths with
  | nil => rfl
  | cons path rest ih =>
    rcases a.linter.broken_or_fails_or_reports source path with broken | ⟨e, fails⟩ | ⟨report, reports⟩
    · rw [lintFiles_cons_of_broken broken, lenient, List.filter_cons_of_neg (by simp [broken])]
      exact ih
    · rw [List.filter_cons_of_pos (by simp [fails.not_broken]), lintFiles_cons_of_fails fails,
        lintFiles_cons_of_fails fails]
    · rw [List.filter_cons_of_pos (by simp [reports.not_broken]), lintFiles_cons_of_reports reports,
        lintFiles_cons_of_reports reports, ih]

/-- Every report of a run is the one on a file that it was given. -/
theorem exists_reports_of_lintFiles {files : List FileReport} (ok : a.lintFiles source paths = .ok files) :
    ∀ f ∈ files, ∃ p ∈ paths, a.linter.Reports source p f := by
  induction paths generalizing files with
  | nil =>
    cases ok
    exact nofun
  | cons path rest ih =>
    have later {others : List FileReport} (more : a.lintFiles source rest = .ok others) :
        ∀ f ∈ others, ∃ p ∈ path :: rest, a.linter.Reports source p f := by
      intro f mem
      obtain ⟨p, listed, reports⟩ := ih more f mem
      exact ⟨p, .tail _ listed, reports⟩
    rcases a.linter.broken_or_fails_or_reports source path with broken | ⟨e, fails⟩ | ⟨report, reports⟩
    · rw [lintFiles_cons_of_broken broken] at ok
      split at ok
      · cases ok
      · exact later ok
    · rw [lintFiles_cons_of_fails fails] at ok
      cases ok
    · rw [lintFiles_cons_of_reports reports] at ok
      cases more : a.lintFiles source rest with
      | error e =>
        rw [more] at ok
        cases ok
      | ok others =>
        rw [more] at ok
        cases ok
        exact List.forall_mem_cons.2 ⟨⟨path, .head _, reports⟩, later more⟩

/-- Every report of a run is the one on a file that it discovered. -/
theorem exists_reports_of_run {r : Report} (ok : a.run source = .ok r) :
    ∃ found, a.discover source.toFileFinder = .ok found ∧ ∀ f ∈ r.files, ∃ p ∈ found, a.linter.Reports source p f := by
  unfold run at ok
  split at ok
  · cases ok
  · next found discovered =>
    split at ok
    · cases ok
    · next linted =>
      cases ok
      exact ⟨found, discovered, exists_reports_of_lintFiles linted⟩

/-- Without broken files a run succeeds exactly with the reports on all files. -/
theorem lintFiles_eq_ok_iff (whole : ∀ p ∈ paths, source.brokenB p = false) {reports : List FileReport} :
    a.lintFiles source paths = .ok reports ↔ List.Forall₂ (a.linter.Reports source) paths reports := by
  induction paths generalizing reports with
  | nil => simp [lintFiles, eq_comm]
  | cons path rest ih =>
    have whole_rest : ∀ p ∈ rest, source.brokenB p = false := fun p mem => whole p (.tail _ mem)
    rw [List.forall₂_cons_left_iff]
    rcases a.linter.fails_or_reports (whole path List.mem_cons_self) with ⟨e, fails⟩ | ⟨report, here⟩
    · rw [lintFiles_cons_of_fails fails]
      constructor
      · intro ok
        cases ok
      · rintro ⟨report, -, here, -⟩
        exact absurd here (not_reports_of_fails fails report)
    · rw [lintFiles_cons_of_reports here]
      constructor
      · intro ok
        cases more : a.lintFiles source rest with
        | error e => rw [more] at ok; cases ok
        | ok others =>
          rw [more] at ok
          cases ok
          exact ⟨report, others, here, (ih whole_rest).1 more, rfl⟩
      · rintro ⟨report', others, here', there, rfl⟩
        cases (lintFile_of_reports here).symm.trans (lintFile_of_reports here')
        rw [(ih whole_rest).2 there]
        rfl

theorem firstFails_cons_of_fails {e e' : AnalysisError} (fails : a.linter.Fails source path e) :
    a.linter.FirstFails source (path :: rest) e' ↔ e = e' := by
  constructor
  · rintro ⟨before, q, after, reports, split, linted, fails'⟩
    cases before with
    | nil =>
      cases split
      cases (lintFile_of_fails fails).symm.trans (lintFile_of_fails fails')
      rfl
    | cons first before =>
      cases split
      obtain ⟨report, -, here, -⟩ := List.forall₂_cons_left_iff.1 linted
      exact absurd here (not_reports_of_fails fails report)
  · rintro rfl
    exact ⟨[], path, rest, [], rfl, .nil, fails⟩

theorem firstFails_cons_of_reports {report : FileReport} {e : AnalysisError}
    (here : a.linter.Reports source path report) :
    a.linter.FirstFails source (path :: rest) e ↔ a.linter.FirstFails source rest e := by
  constructor
  · rintro ⟨before, q, after, reports, split, linted, fails⟩
    cases before with
    | nil =>
      cases split
      exact absurd here (not_reports_of_fails fails report)
    | cons first before =>
      cases split
      obtain ⟨-, others, -, there, -⟩ := List.forall₂_cons_left_iff.1 linted
      exact ⟨before, q, after, others, rfl, there, fails⟩
  · rintro ⟨before, q, after, reports, rfl, linted, fails⟩
    exact ⟨path :: before, q, after, report :: reports, rfl, .cons here linted, fails⟩

/-- Without broken files a run fails exactly where the first file fails. -/
theorem lintFiles_eq_error_iff (whole : ∀ p ∈ paths, source.brokenB p = false) {e : AnalysisError} :
    a.lintFiles source paths = .error e ↔ a.linter.FirstFails source paths e := by
  induction paths with
  | nil => simp [lintFiles, FirstFails]
  | cons path rest ih =>
    have whole_rest : ∀ p ∈ rest, source.brokenB p = false := fun p mem => whole p (.tail _ mem)
    rcases a.linter.fails_or_reports (whole path List.mem_cons_self) with ⟨e', fails⟩ | ⟨report, here⟩
    · rw [lintFiles_cons_of_fails fails, firstFails_cons_of_fails fails, Except.error.injEq]
    · rw [lintFiles_cons_of_reports here, firstFails_cons_of_reports here, ← ih whole_rest]
      cases a.lintFiles source rest <;> simp [Except.map]

theorem lintFiles_append (before after : List (List Char)) :
    a.lintFiles source (before ++ after) =
      (a.lintFiles source before).bind fun reports => (a.lintFiles source after).map (reports ++ ·) := by
  induction before with
  | nil => cases later : a.lintFiles source after <;> simp [lintFiles, Except.bind, Except.map, later]
  | cons path rest ih =>
    rw [List.cons_append]
    rcases a.linter.broken_or_fails_or_reports source path with broken | ⟨e, fails⟩ | ⟨report, here⟩
    · rw [lintFiles_cons_of_broken broken, lintFiles_cons_of_broken broken, ih]
      split <;> rfl
    · rw [lintFiles_cons_of_fails fails, lintFiles_cons_of_fails fails]
      rfl
    · rw [lintFiles_cons_of_reports here, lintFiles_cons_of_reports here, ih]
      cases a.lintFiles source rest <;> cases a.lintFiles source after <;> rfl

/-- A strict run ends at the first broken file, if no file before it fails. -/
theorem lintFiles_of_strict (strict : a.strict = true) {before after : List (List Char)}
    (whole : ∀ p ∈ before, source.brokenB p = false) (broken : source.brokenB path = true) :
    ∃ e, a.lintFiles source (before ++ path :: after) = .error e ∧
      (a.linter.FirstFails source before e ∨
        (∃ reports, List.Forall₂ (a.linter.Reports source) before reports) ∧
          e = .invalidDump (String.ofList path)) := by
  rw [lintFiles_append, lintFiles_cons_of_broken broken, strict]
  cases outcome : a.lintFiles source before with
  | error e => exact ⟨e, rfl, .inl ((lintFiles_eq_error_iff whole).1 outcome)⟩
  | ok reports => exact ⟨_, rfl, .inr ⟨⟨reports, (lintFiles_eq_ok_iff whole).1 outcome⟩, rfl⟩⟩

theorem lintFiles_congr {source' : FileSource} (same : ∀ p ∈ paths, source'.read p = source.read p) :
    a.lintFiles source' paths = a.lintFiles source paths := by
  induction paths with
  | nil => rfl
  | cons path rest ih =>
    have here : a.lintFile source' path = a.lintFile source path := by
      rw [lintFile, lintFile, same path List.mem_cons_self]
    rw [lintFiles, lintFiles, here, ih fun p mem => same p (.tail _ mem)]

end LintFiles

end Analysis
end SheetLint
