import SheetLint.Text.Blank
import SheetLint.Text.Pieces

/-!
# Directives in comments

A comment whose text is `sass-lint:disable-line` or
`sass-lint:disable-next-line`, blanks around it apart, switches rules off on one
line: its own first line, or the line after its last. Names of rules may follow
after a blank, separated by commas; without any, all rules are meant.
-/

namespace SheetLint
set_option autoImplicit false

/-- Which line a directive is about. -/
inductive Directive where
  | line
  | nextLine
deriving DecidableEq, Repr, Inhabited

namespace Directive

/-- What every directive starts with. -/
def mark : String := "sass-lint:"

/-- The keyword of a directive. -/
def keyword : Directive → String
  | line => "disable-line"
  | nextLine => "disable-next-line"

/-- The name that stands for every rule. -/
def everyRule : String := "all"

/-- The rules that the part after the keyword names. -/
def ruleNames (rest : List Char) : List String :=
  match ((Text.pieces ',' rest).map Text.trim).filter (!·.isEmpty) with
  | [] => [everyRule]
  | names => names.map String.ofList

/-- The directive that `body` starts with, and what follows its keyword. -/
def splitKeyword? (body : List Char) : Option (Directive × List Char) :=
  [nextLine, line].findSome? fun d => (d.keyword.toList.isPrefixOf? body).map (d, ·)

/-- The directive that a comment's text is, and the rules it names. -/
def parse? (text : List Char) : Option (Directive × List String) :=
  match mark.toList.isPrefixOf? (Text.trim text) with
  | none => none
  | some body =>
    match splitKeyword? body with
    | none => none
    | some (d, rest) =>
      if rest.head?.all Text.isBlank then some (d, ruleNames rest) else none

end Directive

end SheetLint
