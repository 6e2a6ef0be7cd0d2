import SheetLint.Report.Document

/-!
# Rendering reports

Three formats: text for people, with colors and a summary line; the JSON
document of the files; and compact, one line for each detection.
-/

namespace SheetLint
set_option autoImplicit false

/-- A format of the output. -/
inductive Format where
  | text
  | json
  | compact
deriving DecidableEq, Repr, Inhabited

namespace Format

/-- The name of a format. -/
def name : Format → String
  | text => "text"
  | json => "json"
  | compact => "compact"

/-- The formats. -/
def all : List Format := [text, json, compact]

/-- The format of a name. -/
def ofName? (s : String) : Option Format :=
  all.find? fun f => f.name == s

end Format

/-- A style of the terminal. -/
inductive Paint where
  | underline
  | red
  | yellow
  | green
deriving DecidableEq, Repr

/-- The number of a style in an escape sequence. -/
def Paint.code : Paint → String
  | underline => "4"
  | red => "31"
  | yellow => "33"
  | green => "32"

/-- A text in a style. -/
def Paint.apply (paint : Paint) (text : String) : String :=
  "\x1b[" ++ paint.code ++ "m" ++ text ++ "\x1b[0m"

/-- The style of a severity. -/
def Severity.paint : Severity → Paint
  | warning => .yellow
  | error => .red

namespace Report

/-- A detection in the text format. -/
def textEntry (d : Detection) : String :=
  s!"  {d.position.line}:{d.position.column}  {d.severity.paint.apply d.severity.name}  {d.message}  {d.rule}\n"

/-- The section on a file in the text format, with an empty line after it. -/
def textSection (r : FileReport) : String :=
  Paint.underline.apply r.path ++ "\n" ++ String.join (r.messages.map textEntry) ++ "\n"

/-- The summary of a run in words. -/
def summary (r : Report) : String :=
  s!"Found {r.errorCount} error(s), {r.warningCount} warning(s) in {r.files.length} file(s)"

/-- The style of the summary: that of the worst severity that occurs. -/
def summaryPaint (r : Report) : Paint :=
  if 0 < r.errorCount then .red else if 0 < r.warningCount then .yellow else .green

/-- The files that have something to show. -/
def shown (r : Report) : List FileReport :=
  r.files.filter fun f => !f.messages.isEmpty

/-- The report for people. -/
def renderText (r : Report) : String :=
  String.join (r.shown.map textSection) ++ r.summaryPaint.apply r.summary ++ "\n"

/-- The report as a document. -/
def renderJson (r : Report) : String :=
  String.ofList ((Json.array (r.files.map FileReport.toJson)).pretty 0) ++ "\n"

/-- A detection in the compact format. -/
def compactLine (path : String) (d : Detection) : String :=
  s!"{path}:{d.position.line}:{d.position.column}: {d.severity.name} [{d.rule}] {d.message}\n"

/-- The report with one line for each detection. -/
def renderCompact (r : Report) : String :=
  String.join (r.files.flatMap fun f => f.messages.map (compactLine f.path))

/-- The report in a format. -/
def render (r : Report) : Format → String
  | .text => r.renderText
  | .json => r.renderJson
  | .compact => r.renderCompact

end Report
end SheetLint
