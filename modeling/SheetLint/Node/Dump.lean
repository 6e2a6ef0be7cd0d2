import SheetLint.Node
import SheetLint.Json.Reader
import SheetLint.Json.Writer

/-!
# Parser dumps

A dump is a syntax tree as a JSON document. A node is an object; the fields
that are known stand once each in any order, fields that are not known are
passed over, `syntax` may be left out for `scss` and `indexHasChanged` where it
is empty. A node and a position may also be an array of their fields in order.

A document nests at most 127 arrays and objects. The content of the root is
held to that limit throughout, and its texts and numbers have to be readable;
an unknown field of the root itself is not looked into.
-/

namespace SheetLint
set_option autoImplicit false

/-- How many arrays and objects may be open inside the root of a dump. -/
def Node.maxDepth : Nat := 126

namespace Json

mutual

/-- Whether the document nests at most `room` arrays and objects, has no text that names half a
character and no number beyond double precision. -/
def plainB : Json → Nat → Bool
  | .null, _ => true
  | .bool _, _ => true
  | .number literal, _ => Numeral.finiteB literal
  | .text body, _ => (Quoted.decode? body).isSome
  | .array items, room => decide (0 < room) && plainItemsB items (room - 1)
  | .object fields, room => decide (0 < room) && plainFieldsB fields (room - 1)

/-- Whether every item is plain. -/
def plainItemsB : List Json → Nat → Bool
  | [], _ => true
  | item :: rest, room => plainB item room && plainItemsB rest room

/-- Whether every field is plain. -/
def plainFieldsB : List (List Char × Json) → Nat → Bool
  | [], _ => true
  | (name, value) :: rest, room =>
    (Quoted.decode? name).isSome && plainB value room && plainFieldsB rest room

end

/-- The text of a quoted document. -/
def text? : Json → Option String
  | .text body => (Quoted.decode? body).map String.ofList
  | _ => none

/-- The natural number of a numeral, up to `most`. -/
def natUpTo? (most : Nat) : Json → Option Nat
  | .number literal => (Numeral.toNat? literal).filter (· ≤ most)
  | _ => none

end Json

namespace Dialect

/-- The dialect that a document names, as a text or as an object whose only field is null. -/
def ofJson? : Json → Option Dialect
  | .text body => (Json.text? (.text body)).bind ofName?
  | .object [(name, .null)] => (Json.text? (.text name)).bind ofName?
  | _ => none

end Dialect

namespace Position

/-- The fields of a position, in order. -/
inductive Field where
  | line
  | column
deriving DecidableEq

/-- The field of a name. -/
def Field.ofName? (s : String) : Option Field :=
  if s = "line" then some .line else if s = "column" then some .column else none

/-- A position read in part. -/
structure Draft where
  line : Option Nat
  column : Option Nat

/-- The draft after the given fields, none where a known field comes again or is no number. -/
def readFields? (d : Draft) : List (List Char × Json) → Option Draft
  | [] => some d
  | (name, value) :: rest =>
    match Json.text? (.text name) with
    | none => none
    | some key =>
      match Field.ofName? key with
      | none => readFields? d rest
      | some .line =>
        if d.line.isSome then none
        else (value.natUpTo? Node.maxNat).bind fun n => readFields? { d with line := some n } rest
      | some .column =>
        if d.column.isSome then none
        else (value.natUpTo? Node.maxNat).bind fun n => readFields? { d with column := some n } rest

/-- The position that a document gives. -/
def ofJson? : Json → Option Position
  | .object fields =>
    match readFields? ⟨none, none⟩ fields with
    | some ⟨some line, some column⟩ => some ⟨line, column⟩
    | _ => none
  | .array [line, column] =>
    (line.natUpTo? Node.maxNat).bind fun l => (column.natUpTo? Node.maxNat).map fun c => ⟨l, c⟩
  | _ => none

end Position

namespace Node

/-- The fields of a node, in order. -/
inductive Field where
  | kind
  | content
  | dialect
  | start
  | stop
  | indexes
deriving DecidableEq

namespace Field

/-- The name of a field in a dump. -/
def name : Field → String
  | kind => "type"
  | content => "content"
  | dialect => "syntax"
  | start => "start"
  | stop => "end"
  | indexes => "indexHasChanged"

/-- The fields, in order. -/
def all : List Field := [kind, content, dialect, start, stop, indexes]

/-- The field of a name. -/
def ofName? (s : String) : Option Field :=
  all.find? fun f => f.name == s

end Field

/-- The content of a node: a leaf's text or a branch's children. -/
inductive Content where
  | text (t : String)
  | children (nodes : List Node)

/-- A node read in part. -/
structure Draft where
  kind : Option String := none
  content : Option Content := none
  dialect : Option Dialect := none
  start : Option Position := none
  stop : Option Position := none
  indexes : Option (List Nat) := none

/-- The node of its parts. -/
def ofContent (info : NodeInfo) : Content → Node
  | .text t => leaf info t
  | .children nodes => branch info nodes

/-- The node of a draft that has every field but those that may be left out. -/
def Draft.finish? (d : Draft) : Option Node :=
  match d.kind, d.content, d.start, d.stop with
  | some kind, some content, some start, some stop =>
    some (ofContent ⟨kind, d.dialect.getD .scss, start, stop, d.indexes.getD []⟩ content)
  | _, _, _, _ => none

/-- The draft with `value` as the field `f`, none where the field is there already or the value
does not fit. The content is read by the caller. -/
def Draft.put? (d : Draft) (f : Field) (value : Json) : Option Draft :=
  match f with
  | .kind =>
    if d.kind.isSome then none else value.text?.map fun s => { d with kind := some s }
  | .content => none
  | .dialect =>
    if d.dialect.isSome then none
    else (Dialect.ofJson? value).map fun s => { d with dialect := some s }
  | .start =>
    if d.start.isSome then none
    else (Position.ofJson? value).map fun p => { d with start := some p }
  | .stop =>
    if d.stop.isSome then none
    else (Position.ofJson? value).map fun p => { d with stop := some p }
  | .indexes =>
    if d.indexes.isSome then none
    else match value with
      | .array items => (items.mapM (Json.natUpTo? maxNat)).map fun ns => { d with indexes := some ns }
      | _ => none

/-- The node of an array of its fields in order: kind, content, dialect, start and stop, and
perhaps the indexes. -/
def ofItems? (kind : Json) (content : Content) (rest : List Json) : Option Node :=
  if rest.length = 3 ∨ rest.length = 4 then
    (((.kind, kind) :: [Field.dialect, .start, .stop, .indexes].zip rest).foldlM
      (fun (d : Draft) f => d.put? f.1 f.2) { content := some content }).bind Draft.finish?
  else none

mutual

/-- The node that a document gives. -/
def ofJson? : Json → Option Node
  | .object fields => (readFields? {} fields).bind Draft.finish?
  | .array (kind :: content :: rest) =>
    (contentOfJson? content).bind fun c => ofItems? kind c rest
  | _ => none

/-- The content that a document gives. -/
def contentOfJson? : Json → Option Content
  | .array items => (nodesOfJson? items).map .children
  | .text body => (Json.text? (.text body)).map .text
  | _ => none

/-- The nodes that documents give. -/
def nodesOfJson? : List Json → Option (List Node)
  | [] => some []
  | j :: rest => (ofJson? j).bind fun n => (nodesOfJson? rest).map (n :: ·)

/-- The draft after the given fields. -/
def readFields? (d : Draft) : List (List Char × Json) → Option Draft
  | [] => some d
  | (name, value) :: rest =>
    match Json.text? (.text name) with
    | none => none
    | some key =>
      match Field.ofName? key with
      | none => readFields? d rest
      | some .content =>
        if d.content.isSome then none
        else (contentOfJson? value).bind fun c => readFields? { d with content := some c } rest
      | some f => (d.put? f value).bind fun d => readFields? d rest

end

/-- Whether the content in the root of a document is within the limits of a dump. -/
def rootPlainB : Json → Bool
  | .object fields =>
    fields.all fun f => Json.text? (.text f.1) != some Field.content.name || f.2.plainB maxDepth
  | .array items => items[1]?.all fun content => content.plainB maxDepth
  | _ => true

/-- The tree that a document is a dump of. -/
def ofDump? (j : Json) : Option Node :=
  if rootPlainB j then ofJson? j else none

/-- The tree that a text is a dump of. -/
def read? (text : String) : Option Node :=
  (Json.read? text.toList).bind ofDump?

end Node

/-- The document of a position. -/
def Position.toJson (p : Position) : Json :=
  .ofFields [("line", .ofNat p.line), ("column", .ofNat p.column)]

namespace Node

/-- The document of a node whose content is already written. -/
def jsonOf (info : NodeInfo) (content : Json) : Json :=
  .ofFields [(Field.kind.name, .ofString info.kind), (Field.content.name, content),
    (Field.dialect.name, .ofString info.dialect.name), (Field.start.name, info.start.toJson),
    (Field.stop.name, info.stop.toJson), (Field.indexes.name, .array (info.indexes.map .ofNat))]

mutual

/-- The document of a node, with every field. -/
def toJson : Node → Json
  | leaf info t => jsonOf info (.ofString t)
  | branch info cs => jsonOf info (.array (toJsonAll cs))

/-- The documents of several nodes. -/
def toJsonAll : List Node → List Json
  | [] => []
  | n :: rest => toJson n :: toJsonAll rest

end

/-- The dump of a tree. -/
def write (n : Node) : String :=
  String.ofList n.toJson.compact

end Node
end SheetLint
