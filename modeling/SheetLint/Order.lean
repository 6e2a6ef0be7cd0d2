import SheetLint.Order.Preset
import SheetLint.Text.Vendor

/-!
# Orders of properties

An order policy ranks property names: alphabetically by the name as written, or
by the place of the common name (without a vendor mark) in a list. A name that
is not in the list has no rank and may stand anywhere.
-/

namespace SheetLint.Order
set_option autoImplicit false

/-- The rank of a property. -/
inductive Rank where
  | index (n : Nat)
  | name (s : String)
deriving DecidableEq, Repr

namespace Rank

/-- Comparison of ranks: places by number, names by their characters. -/
def compare : Rank → Rank → Ordering
  | .index a, .index b => Ord.compare a b
  | .index _, .name _ => .lt
  | .name _, .index _ => .gt
  | .name a, .name b => compareOfLessAndEq a b

/-- Whether `a` ranks strictly before `b`. -/
def ltB (a b : Rank) : Bool :=
  a.compare b == .lt

/-- Comparison of ranks that may be missing; no rank comes first. -/
def compareOption : Option Rank → Option Rank → Ordering
  | none, none => .eq
  | none, some _ => .lt
  | some _, none => .gt
  | some a, some b => a.compare b

end Rank

/-- How properties are ordered. -/
inductive Policy where
  | alphabetical
  | preset (p : Preset)
  | custom (entries : List Entry)
deriving DecidableEq, Repr, Inhabited

namespace Policy

/-- The policy of a list of names. -/
def ofNames (names : List String) : Policy :=
  .custom (names.map Entry.mk)

/-- The place of a property in a list. -/
def place? (entries : List Entry) (property : String) : Option Rank :=
  (Record.search? entries "name" (String.ofList (Text.commonName property.toList))).map .index

/-- The rank of a property. -/
def rank? (policy : Policy) (property : String) : Option Rank :=
  match policy with
  | alphabetical => some (.name property)
  | preset p => place? p.entries property
  | custom entries => place? entries property

/-- The policy in words. -/
def describe : Policy → String
  | alphabetical => "alphabetical"
  | preset p => p.name
  | custom entries => s!"custom ({entries.length} properties)"

end Policy
end SheetLint.Order
