import Mathlib.Data.List.Nodup
import SheetLint.Proofs.DumpRoundTrip
import SheetLint.Report.Render

/-!
# Reading back a report

The report on a file, written as a document, is read back as it but for the shapes of its
messages, which a document leaves out: those come back as the default shape. So a document
fixes a report up to shapes. The indented layout is a text of the document like the compact
one (`laid_pretty`), which carries the result over from documents to what is printed.
-/

namespace SheetLint
set_option autoImplicit false

namespace Json

section Layouts

open Token (Laid isSpace)

variable {ts us : List Token} {cs ds : List Char}

/-- Blanks may stand in front of a layout. -/
theorem Token.Laid.indent (laid : Laid ts cs) (blank : List Char) (spaces : ∀ c ∈ blank, isSpace c = true) :
    Laid ts (blank ++ cs) := by
  cases laid with
  | nil spaces' => exact .nil (List.forall_mem_append.2 ⟨spaces, spaces'⟩)
  | cons spaces' rest =>
    rw [← List.append_assoc]
    exact .cons (List.forall_mem_append.2 ⟨spaces, spaces'⟩) rest

theorem Token.Laid.append (first : Laid ts cs) (later : Laid us ds) : Laid (ts ++ us) (cs ++ ds) := by
  induction first with
  | nil spaces => exact later.indent _ spaces
  | cons spaces _ ih =>
    rw [List.append_assoc, List.append_assoc, List.cons_append]
    exact .cons spaces ih

/-- A token goes before a layout as it is written. -/
theorem Token.Laid.spell (t : Token) (laid : Laid ts cs) : Laid (t :: ts) (t.spelling ++ cs) :=
  @Laid.cons t ts [] cs nofun laid

/-- The name of a field, a colon and a blank go before its value. -/
theorem Token.Laid.field (name : List Char) (laid : Laid ts cs) :
    Laid (.text name :: .colon :: ts) (quoted name ++ ':' :: ' ' :: cs) :=
  ((laid.indent [' '] (List.forall_mem_singleton.2 rfl)).spell .colon).spell (.text name)

theorem spaces_newline (depth : Nat) : ∀ c ∈ newline depth, isSpace c = true := by
  intro c mem
  rcases List.mem_cons.1 mem with rfl | mem
  · rfl
  · rw [List.eq_of_mem_replicate mem]
    rfl

/-- The end of an array or object stands on a line of its own. -/
theorem laid_close (t : Token) (depth : Nat) : Laid [t] (newline depth ++ t.spelling) := by
  have last := (@Laid.nil [] nofun).spell t
  rw [List.append_nil] at last
  exact last.indent _ (spaces_newline depth)

mutual

/-- The indented layout is a text of the document. -/
theorem laid_pretty : (j : Json) → ∀ depth : Nat, Laid j.tokens (j.pretty depth)
  | .null, _ | .bool true, _ | .bool false, _ | .array [], _ | .object [], _ => Token.laid_flatMap _
  | .number literal, _ => by
    have written := Token.laid_flatMap [.number literal]
    rwa [List.flatMap_singleton] at written
  | .text body, _ => by
    have written := Token.laid_flatMap [.text body]
    rwa [List.flatMap_singleton] at written
  | .array (item :: rest), depth => by
    have inside := (laid_pretty item (depth + 1)).append (laid_prettyItems rest depth)
    have opened := (inside.indent _ (spaces_newline (depth + 1))).spell .openArray
    rw [pretty, joined_cons]
    simpa [Token.spelling, tokens, itemTokens] using opened
  | .object ((name, value) :: rest), depth => by
    have inside := (laid_pretty value (depth + 1)).append (laid_prettyFields rest depth)
    have opened := ((inside.field name).indent _ (spaces_newline (depth + 1))).spell .openObject
    rw [pretty, joined_cons]
    simpa [Token.spelling, tokens, fieldTokens] using opened

theorem laid_prettyItems : (items : List Json) → ∀ depth : Nat,
    Laid (laterItems items)
      ((prettyItems (depth + 1) items).flatMap ((',' :: newline (depth + 1)) ++ ·) ++ (newline depth ++ [']']))
  | [], depth => laid_close .closeArray depth
  | item :: rest, depth => by
    have inside := (laid_pretty item (depth + 1)).append (laid_prettyItems rest depth)
    have after := (inside.indent _ (spaces_newline (depth + 1))).spell .comma
    simpa [Token.spelling, prettyItems, laterItems] using after

theorem laid_prettyFields : (fields : List (List Char × Json)) → ∀ depth : Nat,
    Laid (laterFields fields)
      ((prettyFields (depth + 1) fields).flatMap ((',' :: newline (depth + 1)) ++ ·) ++ (newline depth ++ ['\x7d']))
  | [], depth => laid_close .closeObject depth
  | (name, value) :: rest, depth => by
    have inside := (laid_pretty value (depth + 1)).append (laid_prettyFields rest depth)
    have after := ((inside.field name).indent _ (spaces_newline (depth + 1))).spell .comma
    simpa [Token.spelling, prettyFields, laterFields] using after

end
end Layouts

section Fields

variable {fields : List (String × Json)}

theorem text?_ofString (s : String) : (ofString s).text? = some s :=
  text?_of_spells (Quoted.spells_encode _)

theorem sound_ofString (s : String) : (ofString s).Sound :=
  (Node.quotes_ofString s).sound

theorem sound_ofFields (sound : ∀ f ∈ fields, f.2.Sound) : (ofFields fields).Sound := by
  apply sound_object
  rw [List.forall_mem_map]
  intro f mem
  exact ⟨⟨_, Quoted.spells_encode _⟩, sound f mem⟩

/-- Of fields with distinct names just one has the name of each. -/
theorem filter_name_eq (distinct : (fields.map Prod.fst).Nodup) {f : String × Json} (mem : f ∈ fields) :
    fields.filter (fun g => g.1 == f.1) = [f] := by
  obtain ⟨before, after, rfl⟩ := List.append_of_mem mem
  rw [List.map_append, List.map_cons, List.nodup_middle, ← List.map_append] at distinct
  have others : ∀ g ∈ before ++ after, ¬(g.1 == f.1) = true := by
    intro g mem same
    apply (List.nodup_cons.1 distinct).1
    rw [← beq_iff_eq.1 same]
    exact List.mem_map_of_mem mem
  obtain ⟨left, right⟩ := List.forall_mem_append.1 others
  rw [List.filter_append, List.filter_eq_nil_iff.2 left, List.filter_cons, if_pos (beq_self_eq_true _),
    List.filter_eq_nil_iff.2 right, List.nil_append]

/-- Of fields with distinct names, each is found by its name. -/
theorem field?_ofFields (distinct : (fields.map Prod.fst).Nodup) {f : String × Json} (mem : f ∈ fields) :
    field? (fields.map fun g => (Quoted.encode g.1.toList, g.2)) f.1 = some f.2 := by
  have readable (g : String × Json) : text? (.text (Quoted.encode g.1.toList)) = some g.1 := text?_ofString g.1
  have found : (fields.map fun g => (Quoted.encode g.1.toList, g.2)).filter (fun g => text? (.text g.1) == some f.1) =
      [(Quoted.encode f.1.toList, f.2)] := by
    rw [List.filter_map]
    simp only [Function.comp_def, readable, Option.some_beq_some]
    rw [filter_name_eq distinct mem]
    rfl
  rw [field?, if_pos, found]
  rw [List.all_map, List.all_eq_true]
  intro g _
  simp [readable]

/-- The fields of an object are read in the order in which they are asked for. -/
theorem record?_ofFields (distinct : (fields.map Prod.fst).Nodup) :
    record? (fields.map Prod.fst) (ofFields fields) = some (fields.map Prod.snd) :=
  mapM_of_forall fun _ mem => field?_ofFields distinct mem

end Fields
end Json

/-- The severity is read back from its level. -/
theorem Severity.ofJson?_ofNat_level (s : Severity) : ofJson? (.ofNat s.level) = some s := by
  have small : s.level ≤ 255 := by cases s <;> decide
  rw [ofJson?, Json.natUpTo?_ofNat small, Option.bind_some]
  cases s <;> rfl

namespace Detection

/-- The detection with the default shape. -/
def unshaped (d : Detection) : Detection := { d with shape := {} }

theorem ofJson?_toJson {d : Detection} (fits : d.position.Fits) : ofJson? d.toJson = some d.unshaped := by
  have fields : d.toJson.record? fieldNames = some [.ofNat d.position.line, .ofNat d.position.column,
      .ofString d.rule, .ofString d.message, .ofNat d.severity.level] :=
    Json.record?_ofFields (by simp)
  rw [ofJson?, fields]
  simp only [Json.natUpTo?_ofNat fits.1, Json.natUpTo?_ofNat fits.2, Json.text?_ofString, Severity.ofJson?_ofNat_level,
    Option.bind_eq_bind, Option.bind_some]
  rfl

theorem sound_toJson (d : Detection) : d.toJson.Sound := by
  apply Json.sound_ofFields
  simp [Json.sound_ofNat, Json.sound_ofString]

end Detection

namespace FileReport

/-- The report with the default shape in each message. -/
def unshaped (r : FileReport) : FileReport := { r with messages := r.messages.map Detection.unshaped }

/-- The numbers of a report are within the range of a document. -/
structure Fits (r : FileReport) : Prop where
  positions : ∀ d ∈ r.messages, d.position.Fits
  warnings : r.warningCount ≤ Node.maxNat
  errors : r.errorCount ≤ Node.maxNat

theorem ofJson?_toJson {r : FileReport} (fits : r.Fits) : ofJson? r.toJson = some r.unshaped := by
  have fields : r.toJson.record? fieldNames = some [.ofString r.path, .array (r.messages.map Detection.toJson),
      .ofNat r.warningCount, .ofNat r.errorCount] :=
    Json.record?_ofFields (by simp)
  have messages : (r.messages.map Detection.toJson).mapM Detection.ofJson? = some (r.messages.map Detection.unshaped) :=
    Json.mapM_of_forall fun d mem => Detection.ofJson?_toJson (fits.positions d mem)
  rw [ofJson?, fields]
  simp only [messages, Json.natUpTo?_ofNat fits.warnings, Json.natUpTo?_ofNat fits.errors, Json.text?_ofString,
    Option.bind_eq_bind, Option.bind_some]
  rfl

theorem sound_toJson (r : FileReport) : r.toJson.Sound := by
  have messages : (Json.array (r.messages.map Detection.toJson)).Sound :=
    Json.sound_array (List.forall_mem_map.2 fun d _ => d.sound_toJson)
  apply Json.sound_ofFields
  simp [Json.sound_ofNat, Json.sound_ofString, messages]

/-- A document leaves the shapes out. -/
theorem toJson_unshaped (r : FileReport) : r.unshaped.toJson = r.toJson := by
  rw [toJson, unshaped, List.map_map]
  rfl

/-- A report is read back from every text of its document. -/
theorem ofJson?_of_laid {r : FileReport} {text : List Char} (fits : r.Fits) (laid : Json.Token.Laid r.toJson.tokens text) :
    (Json.read? text).bind ofJson? = some r.unshaped := by
  rw [Json.read?_of_laid r.sound_toJson laid, Option.bind_some, ofJson?_toJson fits]

/-- Whatever the layout, two reports are written alike iff they agree up to shapes. -/
theorem written_eq_iff {write : Json → List Char} (laid : ∀ j, Json.Token.Laid j.tokens (write j)) {r s : FileReport}
    (fits : r.Fits) (fits' : s.Fits) : write r.toJson = write s.toJson ↔ r.unshaped = s.unshaped := by
  constructor
  · intro same
    have read := ofJson?_of_laid fits (laid r.toJson)
    rw [same, ofJson?_of_laid fits' (laid s.toJson)] at read
    exact (Option.some.inj read).symm
  · intro same
    rw [← toJson_unshaped r, same, toJson_unshaped s]

end FileReport

/-- What is printed for a run is a text of the array of its reports. -/
theorem Report.read?_renderJson (run : Report) :
    Json.read? run.renderJson.toList = some (.array (run.files.map FileReport.toJson)) := by
  have sound : (Json.array (run.files.map FileReport.toJson)).Sound :=
    Json.sound_array (List.forall_mem_map.2 fun r _ => r.sound_toJson)
  have ending : Json.Token.Laid [] ['\n'] := .nil (List.forall_mem_singleton.2 rfl)
  have laid := ((Json.array (run.files.map FileReport.toJson)).laid_pretty 0).append ending
  rw [List.append_nil] at laid
  rw [renderJson, String.toList_append, String.toList_ofList]
  exact Json.read?_of_laid sound laid

namespace FileReport

/-- **A report is read back up to shapes.** The document of a report, with or without
indentation, is read as the report with the default shape in each message, and that report is
written as the same document. So two reports have the same document iff they agree up to
shapes. In what is printed for a run, each report is read back from its place. -/
theorem json_round_trip {r : FileReport} (fits : r.Fits) :
    (Json.read? r.toJson.compact).bind ofJson? = some r.unshaped ∧
      (∀ depth : Nat, (Json.read? (r.toJson.pretty depth)).bind ofJson? = some r.unshaped) ∧
      r.unshaped.toJson = r.toJson ∧
      (∀ s : FileReport, s.Fits →
        (r.toJson.compact = s.toJson.compact ↔ r.unshaped = s.unshaped) ∧
          ∀ depth : Nat, r.toJson.pretty depth = s.toJson.pretty depth ↔ r.unshaped = s.unshaped) ∧
      ∀ (run : Report) (i : Nat), run.files[i]? = some r →
        ∃ documents, Json.read? run.renderJson.toList = some (.array documents) ∧
          documents[i]?.bind ofJson? = some r.unshaped := by
  refine ⟨ofJson?_of_laid fits r.toJson.laid_compact, ?_, r.toJson_unshaped, ?_, ?_⟩
  · intro depth
    exact ofJson?_of_laid fits (r.toJson.laid_pretty depth)
  · intro s fits'
    refine ⟨written_eq_iff Json.laid_compact fits fits', ?_⟩
    intro depth
    exact written_eq_iff (fun j => j.laid_pretty depth) fits fits'
  · intro run i place
    refine ⟨_, run.read?_renderJson, ?_⟩
    rw [List.getElem?_map, place, Option.map_some, Option.bind_some, ofJson?_toJson fits]

/-- A report with escapes in its texts, the largest number, and messages of both severities. -/
def sampleReport : FileReport where
  path := "a \"b\"\\ü.scss"
  messages := [⟨⟨1, Node.maxNat⟩, "zero-unit", "\x00\n😀", .warning, ⟨"dimension", 1, 1, 2⟩⟩,
    ⟨⟨2, 1⟩, "no-invalid-hex", "", .error, ⟨"color", 2, 2, 0⟩⟩]
  warningCount := 1
  errorCount := 1

theorem json_round_trip_sample :
    sampleReport.Fits ∧ sampleReport.unshaped ≠ sampleReport ∧
      (Json.read? sampleReport.toJson.compact).bind ofJson? = some sampleReport.unshaped ∧
      ∃ documents, Json.read? (Report.mk [default, sampleReport]).renderJson.toList = some (.array documents) ∧
        documents[1]?.bind ofJson? = some sampleReport.unshaped := by
  have fits : sampleReport.Fits := ⟨by decide, by decide, by decide⟩
  have back := json_round_trip fits
  exact ⟨fits, by decide, back.1, back.2.2.2.2 _ 1 rfl⟩

end FileReport
end SheetLint
