import SheetLint.Record

/-!
# TOML values

The values of TOML. A table keeps its entries by key, in increasing order of
the keys' characters.
-/

namespace SheetLint.Toml
set_option autoImplicit false

/-- A day of the calendar. -/
structure Date where
  year : Nat
  month : Nat
  day : Nat
deriving DecidableEq, Repr, Inhabited

/-- A time of day. -/
structure Time where
  hour : Nat
  minute : Nat
  second : Nat
  nanosecond : Nat
deriving DecidableEq, Repr, Inhabited

/-- The distance of a local time from universal time. -/
inductive Offset where
  | universal
  | minutes (n : Int)
deriving DecidableEq, Repr, Inhabited

/-- A date, a time, both, or both with an offset. -/
structure Datetime where
  date : Option Date
  time : Option Time
  offset : Option Offset
deriving DecidableEq, Repr, Inhabited

/-- A TOML value. -/
inductive Value where
  | string (s : String)
  | integer (n : Int)
  | float (x : Float)
  | boolean (b : Bool)
  | datetime (d : Datetime)
  | array (items : List Value)
  | table (entries : List (String × Value))
deriving Inhabited

/-- The key under which a table carries the text of a date or time. A table of a document that
starts with this key stands for the date or time itself. -/
def dateKey : String := "$__toml_private_datetime"

/-- The entries of a table, by key. -/
abbrev Table : Type := List (String × Value)

namespace Table

/-- The value of a key. -/
def get? (t : Table) (key : String) : Option Value :=
  t.lookup key

/-- The table with a value for a key, in place of the one that was there. -/
def insert (t : Table) (key : String) (v : Value) : Table :=
  match t with
  | [] => [(key, v)]
  | (k, w) :: rest =>
    if key < k then (key, v) :: (k, w) :: rest
    else if key = k then (key, v) :: rest
    else (k, w) :: insert rest key v

/-- The table of entries in any order. -/
def ofEntries (entries : List (String × Value)) : Table :=
  entries.foldl (fun t e => t.insert e.1 e.2) []

end Table

namespace Value

/-- The name of a value's type. -/
def typeName : Value → String
  | string _ => "string"
  | integer _ => "integer"
  | float _ => "float"
  | boolean _ => "boolean"
  | datetime _ => "datetime"
  | array _ => "array"
  | table _ => "table"

/-- The text of a string value. -/
def string? : Value → Option String
  | string s => some s
  | _ => none

end Value

/-- A table as a record of its string values. -/
structure TableRecord where
  table : Table

instance : Record TableRecord where
  field? r field := (r.table.get? field).bind Value.string?

end SheetLint.Toml
