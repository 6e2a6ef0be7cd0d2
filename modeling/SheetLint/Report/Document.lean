import SheetLint.Report

/-!
# Reports as JSON documents

The report on a file is an object of its path, messages and counts; a message
leaves its shape out. Reading takes the fields in any order, or as an array in
order, passes over fields it does not know, and trusts the counts.
-/

namespace SheetLint
set_option autoImplicit false

namespace Json

/-- The value of the field `name`, where it stands exactly once; every name has to be readable. -/
def field? (fields : List (List Char × Json)) (name : String) : Option Json :=
  if fields.all fun f => (text? (.text f.1)).isSome then
    match fields.filter fun f => text? (.text f.1) == some name with
    | [f] => some f.2
    | _ => none
  else none

/-- The values of the named fields, all of which have to be there: of an object by their names, of
an array by their places. -/
def record? (names : List String) : Json → Option (List Json)
  | .object fields => names.mapM (field? fields)
  | .array items => if items.length = names.length then some items else none
  | _ => none

end Json

/-- The severity that a document gives by its level. -/
def Severity.ofJson? (j : Json) : Option Severity :=
  (j.natUpTo? 255).bind fun n => ofLevel? n

namespace Detection

/-- The names of a detection's fields. -/
def fieldNames : List String := ["line", "column", "ruleId", "message", "severity"]

/-- The document of a detection. -/
def toJson (d : Detection) : Json :=
  .ofFields [("line", .ofNat d.position.line), ("column", .ofNat d.position.column),
    ("ruleId", .ofString d.rule), ("message", .ofString d.message),
    ("severity", .ofNat d.severity.level)]

/-- The detection that a document gives; its shape is the default one. -/
def ofJson? (j : Json) : Option Detection :=
  match j.record? fieldNames with
  | some [line, column, rule, message, severity] => do
    some ⟨⟨← line.natUpTo? Node.maxNat, ← column.natUpTo? Node.maxNat⟩, ← rule.text?,
      ← message.text?, ← Severity.ofJson? severity, {}⟩
  | _ => none

end Detection

namespace FileReport

/-- The names of a report's fields. -/
def fieldNames : List String := ["filePath", "messages", "warningCount", "errorCount"]

/-- The document of a report. -/
def toJson (r : FileReport) : Json :=
  .ofFields [("filePath", .ofString r.path), ("messages", .array (r.messages.map Detection.toJson)),
    ("warningCount", .ofNat r.warningCount), ("errorCount", .ofNat r.errorCount)]

/-- The report that a document gives. -/
def ofJson? (j : Json) : Option FileReport :=
  match j.record? fieldNames with
  | some [path, .array messages, warnings, errors] => do
    some ⟨← path.text?, ← messages.mapM Detection.ofJson?, ← warnings.natUpTo? Node.maxNat,
      ← errors.natUpTo? Node.maxNat⟩
  | _ => none

end FileReport
end SheetLint
