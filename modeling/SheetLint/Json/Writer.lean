import SheetLint.Json
import SheetLint.Json.Quoted

/-!
# Writing documents

Two layouts: compact, without any blank, and pretty, with one item or field to
a line, indented by two blanks for each array or object it is in; an empty
array or object stays on its line.
-/

namespace SheetLint.Json
set_option autoImplicit false

/-- The document of a natural number. -/
def ofNat (n : Nat) : Json := .number (Nat.toDigits 10 n)

/-- The document of a text. -/
def ofString (s : String) : Json := .text (Quoted.encode s.toList)

/-- The object with the given fields. -/
def ofFields (fields : List (String × Json)) : Json :=
  .object (fields.map fun f => (Quoted.encode f.1.toList, f.2))

/-- A text body between its quotes. -/
def quoted (body : List Char) : List Char :=
  '"' :: body ++ ['"']

/-- The pieces with a separator between each two. -/
def joined (separator : List Char) : List (List Char) → List Char
  | [] => []
  | [piece] => piece
  | piece :: rest => piece ++ separator ++ joined separator rest

mutual

/-- The document without any blank. -/
def compact : Json → List Char
  | .null => ['n', 'u', 'l', 'l']
  | .bool true => ['t', 'r', 'u', 'e']
  | .bool false => ['f', 'a', 'l', 's', 'e']
  | .number literal => literal
  | .text body => quoted body
  | .array items => '[' :: joined [','] (compactItems items) ++ [']']
  | .object fields => '\x7b' :: joined [','] (compactFields fields) ++ ['\x7d']

/-- Each item of an array without any blank. -/
def compactItems : List Json → List (List Char)
  | [] => []
  | item :: rest => compact item :: compactItems rest

/-- Each field of an object without any blank. -/
def compactFields : List (List Char × Json) → List (List Char)
  | [] => []
  | (name, value) :: rest => (quoted name ++ ':' :: compact value) :: compactFields rest

end

/-- A line break and the indentation of a line inside `depth` arrays and objects. -/
def newline (depth : Nat) : List Char :=
  '\n' :: List.replicate (2 * depth) ' '

mutual

/-- The document inside `depth` arrays and objects, in the pretty layout. -/
def pretty (depth : Nat) : Json → List Char
  | .array [] => ['[', ']']
  | .array (item :: rest) =>
    '[' :: newline (depth + 1) ++
      joined (',' :: newline (depth + 1)) (pretty (depth + 1) item :: prettyItems (depth + 1) rest) ++
      newline depth ++ [']']
  | .object [] => ['\x7b', '\x7d']
  | .object ((name, value) :: rest) =>
    '\x7b' :: newline (depth + 1) ++
      joined (',' :: newline (depth + 1))
        ((quoted name ++ ':' :: ' ' :: pretty (depth + 1) value) :: prettyFields (depth + 1) rest) ++
      newline depth ++ ['\x7d']
  | .null => ['n', 'u', 'l', 'l']
  | .bool true => ['t', 'r', 'u', 'e']
  | .bool false => ['f', 'a', 'l', 's', 'e']
  | .number literal => literal
  | .text body => quoted body

/-- Each item of an array in the pretty layout. -/
def prettyItems (depth : Nat) : List Json → List (List Char)
  | [] => []
  | item :: rest => pretty depth item :: prettyItems depth rest

/-- Each field of an object in the pretty layout. -/
def prettyFields (depth : Nat) : List (List Char × Json) → List (List Char)
  | [] => []
  | (name, value) :: rest =>
    (quoted name ++ ':' :: ' ' :: pretty depth value) :: prettyFields depth rest

end

end SheetLint.Json
