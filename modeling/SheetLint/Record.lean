import SheetLint.Node

/-!
# Records

Things with named text fields, and the search for the first of them that has a
given text in a given field.
-/

namespace SheetLint
set_option autoImplicit false

/-- Things with named text fields. -/
class Record (α : Type) where
  /-- The text in a field, none where there is no such field or it holds no text. -/
  field? : α → String → Option String

/-- The index of the first record whose field holds `needle`. -/
def Record.search? {α : Type} [Record α] (records : List α) (field needle : String) : Option Nat :=
  records.findIdx? fun r => Record.field? r field == some needle

instance : Record Node where
  field? n field :=
    if field = "type" then some n.kind
    else if field = "syntax" then some n.dialect.name
    else if field = "content" then n.text?
    else none

/-- Named texts; of two texts of one name the later counts. -/
structure TextMap where
  fields : List (String × String)
deriving Repr

instance : Record TextMap where
  field? m field := (m.fields.reverse.find? fun f => f.1 == field).map (·.2)

end SheetLint
