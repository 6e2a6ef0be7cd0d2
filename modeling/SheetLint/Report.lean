import SheetLint.Detection
import SheetLint.Node.Dump

/-!
# Reports

The report on a file lists its detections by position and counts them by
severity. The report on a run lists its files.
-/

namespace SheetLint
set_option autoImplicit false

/-- The report on one file. -/
structure FileReport where
  path : String
  messages : List Detection
  warningCount : Nat
  errorCount : Nat
deriving DecidableEq, Repr, Inhabited

/-- The report on a run. -/
structure Report where
  files : List FileReport := []
deriving DecidableEq, Repr, Inhabited

namespace FileReport

/-- The report of detections in any order. -/
def ofMessages (path : String) (messages : List Detection) : FileReport :=
  let sorted := Detection.sorted messages
  let errors := sorted.countP (·.severity == .error)
  ⟨path, sorted, sorted.length - errors, errors⟩

/-- Whether the report counts an error. -/
def hasErrors (r : FileReport) : Bool := decide (0 < r.errorCount)

/-- The report as lines: the path, then a line for each detection. -/
def lines (r : FileReport) : String :=
  r.path ++ "\n" ++ String.join (r.messages.map fun d => d.line ++ "\n")

end FileReport

namespace Report

/-- All detections, file by file. -/
def detections (r : Report) : List Detection := r.files.flatMap FileReport.messages

/-- Whether some file counts an error. -/
def hasErrors (r : Report) : Bool := r.files.any FileReport.hasErrors

/-- The errors that the files count. -/
def errorCount (r : Report) : Nat := r.files.foldr (fun f n => f.errorCount + n) 0

/-- The warnings that the files count. -/
def warningCount (r : Report) : Nat := r.files.foldr (fun f n => f.warningCount + n) 0

/-- The report on the files of one run and then those of another. -/
def append (r s : Report) : Report := ⟨r.files ++ s.files⟩

end Report
end SheetLint
