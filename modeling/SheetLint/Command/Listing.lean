import SheetLint.Rule.Catalog

/-!
# The list of rules

`list-rules` shows a table of the built-in rules and says how to choose among
them.
-/

namespace SheetLint.Command
set_option autoImplicit false

/-- The text with blanks after it up to a width. -/
def padRight (width : Nat) (text : String) : String :=
  text ++ String.ofList (List.replicate (width - text.toList.length) ' ')

/-- A row of the table. -/
def tableRow (code name description : String) : String :=
  padRight 8 code ++ " " ++ padRight 28 name ++ " " ++ description ++ "\n"

/-- The table of the built-in rules and what goes with it. -/
def listing : String :=
  "Available rules:\n\n" ++
  tableRow "Code" "Name" "Description" ++
  String.ofList (List.replicate 80 '-') ++ "\n" ++
  String.join (Rule.all.map fun r => tableRow r.code r.name r.description) ++
  "\nproperty-sort-order orders: alphabetical (default), recess, smacss, concentric, or a list of properties\n" ++
  "\nUse --rules to filter specific rules, e.g.:\n" ++
  "  sass-lint check --rules property-sort-order,zero-unit\n" ++
  "  sass-lint check --rules SL001,SL004\n"

end SheetLint.Command
