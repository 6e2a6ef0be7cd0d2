import SheetLint.Json
import SheetLint.Json.Token

/-!
# Reading documents

A machine reads the tokens of a text one by one and keeps the arrays and
objects that are still open on a stack, so reading never runs out of room on a
deeply nested document. A text is a document iff the machine ends with one
value and nothing open.
-/

namespace SheetLint.Json
set_option autoImplicit false

/-- An array or object that is open around the value being read, with what it holds so far
(latest first) and, for an object, the name that the value belongs to. -/
inductive Frame where
  | array (done : List Json)
  | field (done : List (List Char × Json)) (name : List Char)

/-- Where the machine stands between tokens; each `outer` is the stack of open frames. -/
inductive ReadState where
  | value (outer : List Frame)
  | arrayStart (outer : List Frame)
  | arrayNext (done : List Json) (outer : List Frame)
  | objectStart (outer : List Frame)
  | objectName (done : List (List Char × Json)) (outer : List Frame)
  | objectColon (done : List (List Char × Json)) (name : List Char) (outer : List Frame)
  | objectNext (done : List (List Char × Json)) (outer : List Frame)
  | finished (document : Json)

namespace ReadState

/-- The state once the value `j` inside `outer` is complete. -/
def complete (j : Json) : List Frame → ReadState
  | [] => .finished j
  | .array done :: outer => .arrayNext (j :: done) outer
  | .field done name :: outer => .objectNext ((name, j) :: done) outer

/-- The state after the first token of a value inside `outer`. -/
def begin? (outer : List Frame) : Token → Option ReadState
  | .null => some (complete .null outer)
  | .bool b => some (complete (.bool b) outer)
  | .number literal => some (complete (.number literal) outer)
  | .text body => some (complete (.text body) outer)
  | .openArray => some (.arrayStart outer)
  | .openObject => some (.objectStart outer)
  | _ => none

/-- The state after one more token, or none where no document continues so. -/
def step? : ReadState → Token → Option ReadState
  | .value outer, t => begin? outer t
  | .arrayStart outer, .closeArray => some (complete (.array []) outer)
  | .arrayStart outer, t => begin? (.array [] :: outer) t
  | .arrayNext done outer, .comma => some (.value (.array done :: outer))
  | .arrayNext done outer, .closeArray => some (complete (.array done.reverse) outer)
  | .objectStart outer, .closeObject => some (complete (.object []) outer)
  | .objectStart outer, .text name => some (.objectColon [] name outer)
  | .objectName done outer, .text name => some (.objectColon done name outer)
  | .objectColon done name outer, .colon => some (.value (.field done name :: outer))
  | .objectNext done outer, .comma => some (.objectName done outer)
  | .objectNext done outer, .closeObject => some (complete (.object done.reverse) outer)
  | _, _ => none

/-- The state after all of the tokens. -/
def run? : ReadState → List Token → Option ReadState
  | s, [] => some s
  | s, t :: rest => match s.step? t with
    | none => none
    | some s' => run? s' rest

end ReadState

/-- The document that the whole text is. -/
def read? (cs : List Char) : Option Json :=
  match Token.scan? cs with
  | none => none
  | some tokens =>
    match ReadState.run? (.value []) tokens with
    | some (.finished document) => some document
    | _ => none

end SheetLint.Json
