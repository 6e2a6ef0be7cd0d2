/-!
# JSON documents

A document keeps its numbers and quoted texts as they are written, between the
quotes for a text, and the fields of an object in their order with repeats. So
nothing that a reader may care about is lost but the blanks between tokens:
which numbers are integers, which escapes name half a character, which field is
given twice. What a text or number means is decided where it is used.
-/

namespace SheetLint
set_option autoImplicit false

/-- A JSON document, its texts and numbers as written. -/
inductive Json where
  | null
  | bool (value : Bool)
  | number (literal : List Char)
  | text (body : List Char)
  | array (items : List Json)
  | object (fields : List (List Char × Json))
deriving Inhabited, Repr

end SheetLint
