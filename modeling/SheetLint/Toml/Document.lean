import SheetLint.Toml.Scalar

/-!
# Building a document

A document is built statement by statement. A table is opened by a header of
its own, stands implied above one that is, or grows from the dots of a key; a
header may open an implied table later, dotted keys may only extend tables that
dotted keys have made, nothing is ever added to an inline table, and nothing is
ever set twice.

A document keeps the order in which it is written; a table that a header opens
late counts from there. The order decides one thing only, namely whether a table
stands for a date or time, and is gone once the items are settled into values.
-/

namespace SheetLint.Toml
set_option autoImplicit false

/-- How a table came to be. -/
inductive Origin where
  | header
  | implied
  | dotted
  | inline
deriving DecidableEq, Repr

/-- A part of a document: a value without parts, an array, a table, or an array of the tables that
repeated headers open, latest first. -/
inductive Item where
  | scalar (v : Value)
  | array (items : List Item)
  | table (origin : Origin) (entries : List (String × Item))
  | tables (latestFirst : List (List (String × Item)))
deriving Inhabited

/-- The entries of a table in the order in which they are written. -/
abbrev Items : Type := List (String × Item)

namespace Item

/-- The text of a string. -/
def string? : Item → Option String
  | scalar v => v.string?
  | _ => none

/-- The date or time that an item is the text of. -/
def datetime? (i : Item) : Option Datetime :=
  i.string?.bind fun s => Toml.datetime? .carried s.toList

mutual

/-- The value of an item. There is none where a table starts with the key for dates and has
something else there. -/
def settle? : Item → Option Value
  | scalar v => some v
  | array items => (settleItems? items).map .array
  | table _ entries => settleTable? entries
  | tables latestFirst => (settleTables? latestFirst).map fun ts => .array ts.reverse

/-- The values of items. -/
def settleItems? : List Item → Option (List Value)
  | [] => some []
  | i :: rest => do some ((← settle? i) :: (← settleItems? rest))

/-- The value of a table. -/
def settleTable? : List (String × Item) → Option Value
  | [] => some (.table [])
  | (key, i) :: rest =>
    if key = dateKey then i.datetime?.map .datetime
    else do
      let v ← settle? i
      let others ← settleEntries? rest
      some (.table (Table.ofEntries ((key, v) :: others)))

/-- The values of entries, with their keys. -/
def settleEntries? : List (String × Item) → Option (List (String × Value))
  | [] => some []
  | (key, i) :: rest => do some ((key, ← settle? i) :: (← settleEntries? rest))

/-- The values of tables. -/
def settleTables? : List (List (String × Item)) → Option (List Value)
  | [] => some []
  | entries :: rest => do some ((← settleTable? entries) :: (← settleTables? rest))

end

end Item

namespace Items

/-- The entries with another item for a key that is there. -/
def replace (entries : Items) (key : String) (item : Item) : Items :=
  entries.map fun e => if e.1 = key then (key, item) else e

/-- The entries with `f` applied to the table at `path` below a table of the given origin. Tables
that are not there are made with the origin `made`; a dotted path stops at a table that has a
header, any path at a value, an array or an inline table, and an array of tables stands for its
latest. -/
def update? (made : Origin) (f : Origin → Items → Option Items) :
    List String → Origin → Items → Option Items
  | [], origin, entries => f origin entries
  | key :: path, _, entries =>
    match entries.lookup key with
    | none => (update? made f path made []).map fun sub => entries ++ [(key, .table made sub)]
    | some (.scalar _) => none
    | some (.array _) => none
    | some (.tables []) => none
    | some (.tables (latest :: before)) =>
      (update? made f path .header latest).map fun sub =>
        entries.replace key (.tables (sub :: before))
    | some (.table origin sub) =>
      if origin = .inline ∨ (made = .dotted ∧ origin = .header) then none
      else (update? made f path origin sub).map fun sub => entries.replace key (.table origin sub)

/-- The entries with an item for a key that is not there yet. -/
def put? (entries : Items) (key : String) (item : Item) : Option Items :=
  if (entries.lookup key).isSome then none else some (entries ++ [(key, item)])

/-- The entries with an item for a key of one or more parts. The table that takes the item is the
one at hand for a single part, and otherwise one that dotted keys have made. -/
def assign? (key : List String) (item : Item) (origin : Origin) (entries : Items) : Option Items :=
  match key.getLast? with
  | none => none
  | some last =>
    let path := key.dropLast
    update? .dotted (fun at_ sub =>
      if (at_ = .dotted) = (path = []) then none else sub.put? last item) path origin entries

/-- The entries with the table at `path` opened by a header. A table that was implied moves to the
end. -/
def openTable? (path : List String) (entries : Items) : Option Items :=
  match path.getLast? with
  | none => none
  | some last =>
    update? .implied (fun _ sub =>
      match sub.lookup last with
      | none => some (sub ++ [(last, .table .header [])])
      | some (.table .implied inner) =>
        some (sub.filter (·.1 ≠ last) ++ [(last, .table .header inner)])
      | some _ => none) path.dropLast .header entries

/-- The entries with one more table in the array of tables at `path`. -/
def openElement? (path : List String) (entries : Items) : Option Items :=
  match path.getLast? with
  | none => none
  | some last =>
    update? .implied (fun _ sub =>
      match sub.lookup last with
      | none => some (sub ++ [(last, .tables [[]])])
      | some (.tables latestFirst) => some (sub.replace last (.tables ([] :: latestFirst)))
      | some _ => none) path.dropLast .header entries

end Items

/-- A document under construction: its entries, and the path of the table that is open. -/
structure Draft where
  entries : Items := []
  path : List String := []

namespace Draft

/-- The draft after a header. -/
def header? (d : Draft) (path : List String) : Option Draft :=
  (d.entries.openTable? path).map fun entries => ⟨entries, path⟩

/-- The draft after the header of an array's element. -/
def element? (d : Draft) (path : List String) : Option Draft :=
  (d.entries.openElement? path).map fun entries => ⟨entries, path⟩

/-- The draft after a key and its item. -/
def assign? (d : Draft) (key : List String) (item : Item) : Option Draft :=
  (Items.update? .implied (fun origin sub => sub.assign? key item origin) d.path .header
    d.entries).map fun entries => ⟨entries, d.path⟩

end Draft
end SheetLint.Toml
