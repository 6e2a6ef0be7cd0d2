import Mathlib.Data.Set.Basic
import SheetLint.Directive
import SheetLint.Proofs.TrimmedTexts

/-!
# The grammar of directives

What a comment says is laid down by a grammar of its own, `Directive.Grammar`: blanks, the mark and a
keyword, a rest that is empty or starts with a blank, and blanks. The rest is cut at its commas, and
the pieces are rule names once the blanks around them are off. `parse?` accepts exactly these texts.
In the other direction a list of names can be written out with any blanks around the text and its
commas (`Layout`), and is read back.
-/

namespace SheetLint
set_option autoImplicit false

namespace Directive

/-- A piece is the name of a rule, with blanks around it. -/
def Names (pieces : List (List Char)) (rule : String) : Prop := rule ≠ "" ∧ ∃ p ∈ pieces, Text.Trims p rule.toList

/-- The rules that the pieces name, or all where they name none. -/
def rulesOf (pieces : List (List Char)) : Set String :=
  {rule | Names pieces rule ∨ (∀ other, ¬ Names pieces other) ∧ rule = "all"}

/-- The text is a directive about a set of rules. -/
inductive Grammar (text : List Char) : Directive → Set String → Prop where
  | line {rest : List Char} {pieces : List (List Char)}
    (trims : Text.Trims text ("sass-lint:disable-line".toList ++ rest))
    (opens : ∀ c ∈ rest.head?, Text.isBlank c = true) (cuts : Text.Cuts ',' rest pieces) :
    Grammar text .line (rulesOf pieces)
  | nextLine {rest : List Char} {pieces : List (List Char)}
    (trims : Text.Trims text ("sass-lint:disable-next-line".toList ++ rest))
    (opens : ∀ c ∈ rest.head?, Text.isBlank c = true) (cuts : Text.Cuts ',' rest pieces) :
    Grammar text .nextLine (rulesOf pieces)

theorem splitKeyword?_eq_some_iff {body rest : List Char} {d : Directive} :
    splitKeyword? body = some (d, rest) ↔ d.keyword.toList ++ rest = body := by
  constructor
  · intro split
    obtain ⟨e, -, cut⟩ := List.exists_of_findSome?_eq_some split
    obtain ⟨rest', begins, same⟩ := Option.map_eq_some_iff.1 cut
    obtain ⟨rfl, rfl⟩ := Prod.mk.inj same
    exact List.isPrefixOf?_eq_some_iff_append_eq.1 begins
  · rintro rfl
    -- the keyword that is tried first starts no other
    have here (d : Directive) : d.keyword.toList.isPrefixOf? (d.keyword.toList ++ rest) = some rest :=
      List.isPrefixOf?_eq_some_iff_append_eq.2 rfl
    cases d with
    | nextLine => rw [splitKeyword?, List.findSome?_cons, here, Option.map_some]
    | line =>
      have other : nextLine.keyword.toList.isPrefixOf? (line.keyword.toList ++ rest) = none := rfl
      rw [splitKeyword?, List.findSome?_cons, other, Option.map_none]
      dsimp only
      rw [List.findSome?_cons, here, Option.map_some]

theorem parse?_eq_some_iff {text : List Char} {d : Directive} {names : List String} :
    parse? text = some (d, names) ↔ ∃ rest, Text.trim text = mark.toList ++ (d.keyword.toList ++ rest) ∧
      (∀ c ∈ rest.head?, Text.isBlank c = true) ∧ ruleNames rest = names := by
  unfold parse?
  constructor
  · intro parsed
    split at parsed
    · cases parsed
    · rename_i body begins
      split at parsed
      · cases parsed
      · rename_i e rest split
        split at parsed
        · rename_i blank
          obtain ⟨rfl, rfl⟩ := Prod.mk.inj (Option.some.inj parsed)
          refine ⟨rest, ?_, (Option.all_eq_true _ _).1 blank, rfl⟩
          rw [splitKeyword?_eq_some_iff.1 split, List.isPrefixOf?_eq_some_iff_append_eq.1 begins]
        · cases parsed
  · rintro ⟨rest, trimmed, blank, rfl⟩
    rw [List.isPrefixOf?_eq_some_iff_append_eq.2 trimmed.symm]
    dsimp only
    rw [splitKeyword?_eq_some_iff.2 rfl]
    dsimp only
    rw [if_pos ((Option.all_eq_true _ _).2 blank)]

theorem mem_ruleNames_iff {rest : List Char} {rule : String} :
    rule ∈ ruleNames rest ↔ rule ∈ rulesOf (Text.pieces ',' rest) := by
  have named (rule : String) : Names (Text.pieces ',' rest) rule ↔
      rule.toList ∈ ((Text.pieces ',' rest).map Text.trim).filter (!·.isEmpty) := by
    simp only [Names, ← Text.trim_eq_iff, List.mem_filter, List.mem_map, Bool.not_eq_true', List.isEmpty_eq_false_iff,
      ne_eq, String.toList_eq_nil_iff, and_comm]
  simp only [rulesOf, Set.mem_ofPred_eq, named, ruleNames]
  generalize ((Text.pieces ',' rest).map Text.trim).filter (!·.isEmpty) = names
  cases names with
  | nil => simp [everyRule]
  | cons first more =>
    -- the first name is one, so the pieces name some
    have some : ¬ ∀ other : String, other.toList ∉ first :: more := by
      intro none
      apply none (String.ofList first)
      rw [String.toList_ofList]
      exact .head _
    rw [List.mem_map, or_iff_left fun none => some none.1]
    constructor
    · rintro ⟨letters, mem, rfl⟩
      rwa [String.toList_ofList]
    · intro mem
      exact ⟨rule.toList, mem, String.ofList_toList⟩

theorem ext_ruleNames (rest : List Char) : {rule | rule ∈ ruleNames rest} = rulesOf (Text.pieces ',' rest) :=
  Set.ext fun _ => mem_ruleNames_iff

theorem exists_parse?_of_trims {text rest : List Char} {d : Directive} {pieces : List (List Char)}
    (trims : Text.Trims text (mark.toList ++ (d.keyword.toList ++ rest)))
    (opens : ∀ c ∈ rest.head?, Text.isBlank c = true) (cuts : Text.Cuts ',' rest pieces) :
    ∃ names, parse? text = some (d, names) ∧ {rule | rule ∈ names} = rulesOf pieces := by
  refine ⟨_, parse?_eq_some_iff.2 ⟨rest, Text.trim_eq_iff.2 trims, opens, rfl⟩, ?_⟩
  rw [ext_ruleNames, Text.pieces_of_cuts cuts]

theorem mark_append_line (rest : List Char) :
    mark.toList ++ (line.keyword.toList ++ rest) = "sass-lint:disable-line".toList ++ rest := by
  have joined : mark ++ line.keyword = "sass-lint:disable-line" := by decide
  rw [← List.append_assoc, ← String.toList_append, joined]

theorem mark_append_nextLine (rest : List Char) :
    mark.toList ++ (nextLine.keyword.toList ++ rest) = "sass-lint:disable-next-line".toList ++ rest := by
  have joined : mark ++ nextLine.keyword = "sass-lint:disable-next-line" := by decide
  rw [← List.append_assoc, ← String.toList_append, joined]

/-- A comment's text is read as a directive about some rules exactly when the grammar has it so. -/
theorem exists_parse?_iff {text : List Char} {d : Directive} {rules : Set String} :
    (∃ names, parse? text = some (d, names) ∧ {rule | rule ∈ names} = rules) ↔ Grammar text d rules := by
  constructor
  · rintro ⟨names, parsed, rfl⟩
    obtain ⟨rest, trimmed, opens, rfl⟩ := parse?_eq_some_iff.1 parsed
    have trims := Text.trim_eq_iff.1 trimmed
    rw [ext_ruleNames]
    cases d with
    | line =>
      rw [mark_append_line] at trims
      exact .line trims opens (Text.cuts_pieces ',' rest)
    | nextLine =>
      rw [mark_append_nextLine] at trims
      exact .nextLine trims opens (Text.cuts_pieces ',' rest)
  · intro grammar
    cases grammar with
    | line trims opens cuts =>
      rw [← mark_append_line] at trims
      exact exists_parse?_of_trims trims opens cuts
    | nextLine trims opens cuts =>
      rw [← mark_append_nextLine] at trims
      exact exists_parse?_of_trims trims opens cuts

/-- A rule name that can stand in a directive. -/
structure Name where
  text : String
  named : text ≠ ""
  whole : ',' ∉ text.toList
  tight : Text.Tight text.toList

/-- Blanks, as many as there may be. -/
structure Blanks where
  text : List Char
  blank : Text.Blank text

/-- A rule name after another, with a comma between them and blanks on both sides of it. -/
structure Later where
  before : Blanks
  after : Blanks
  name : Name

/-- The rule names of a directive as they are laid out. -/
inductive Listing where
  | empty
  | names (first : Name) (later : List Later)

/-- A directive as it is laid out: blanks around the text, and at least one after the keyword. -/
structure Layout where
  before : Blanks
  gap : Blanks
  apart : gap.text ≠ []
  listing : Listing
  after : Blanks

/-- The names that are laid out. -/
def Listing.rules : Listing → List String
  | empty => []
  | names first later => first.text :: later.map (·.name.text)

/-- The names after the first, each after a comma. -/
def laterText (later : List Later) : List Char :=
  later.flatMap fun l => l.before.text ++ ',' :: (l.after.text ++ l.name.text.toList)

/-- The names written out. -/
def Listing.text : Listing → List Char
  | empty => []
  | names first later => first.text.toList ++ laterText later

/-- The comment's text. -/
def Layout.text (l : Layout) (d : Directive) : List Char :=
  l.before.text ++ ("sass-lint:".toList ++ (d.keyword.toList ++ (l.gap.text ++ l.listing.text))) ++ l.after.text

section Layout

theorem Blanks.comma (b : Blanks) : ',' ∉ b.text := fun mem => absurd (b.blank ',' mem) (by decide)

theorem Name.trims (n : Name) (before after : Blanks) :
    Text.Trims (before.text ++ n.text.toList ++ after.text) n.text.toList :=
  ⟨⟨before.text, after.text, before.blank, after.blank, rfl⟩, n.tight⟩

theorem Name.letters (n : Name) : n.text.toList ≠ [] := fun none => n.named (String.toList_eq_nil_iff.1 none)

theorem laterText_cons (l : Later) (later : List Later) :
    laterText (l :: later) = l.before.text ++ ',' :: (l.after.text ++ (l.name.text.toList ++ laterText later)) := by
  simp [laterText]

/-- The pieces of names that are written out are the names, with blanks around them. -/
theorem map_trim_pieces (gap : Blanks) (first : Name) (later : List Later) :
    (Text.pieces ',' (gap.text ++ (first.text.toList ++ laterText later))).map Text.trim =
      first.text.toList :: later.map (·.name.text.toList) := by
  induction later generalizing gap first with
  | nil =>
    have whole : Text.Cuts ',' (gap.text ++ first.text.toList) [gap.text ++ first.text.toList] := by
      refine ⟨List.cons_ne_nil _ _, ?_, List.intercalate_singleton⟩
      rw [List.forall_mem_singleton, List.mem_append, not_or]
      exact ⟨gap.comma, first.whole⟩
    have alone := first.trims gap ⟨[], nofun⟩
    rw [List.append_nil] at alone
    rw [laterText, List.flatMap_nil, List.append_nil, Text.pieces_of_cuts whole, List.map_singleton,
      Text.trim_eq_iff.2 alone, List.map_nil]
  | cons l later ih =>
    have free : ',' ∉ gap.text ++ first.text.toList ++ l.before.text := by
      simp only [List.mem_append, not_or]
      exact ⟨⟨gap.comma, first.whole⟩, l.before.comma⟩
    have cut : gap.text ++ (first.text.toList ++ laterText (l :: later)) =
        (gap.text ++ first.text.toList ++ l.before.text) ++
          ',' :: (l.after.text ++ (l.name.text.toList ++ laterText later)) := by
      rw [laterText_cons]
      simp only [List.append_assoc]
    rw [cut, Text.pieces_append_cons free, List.map_cons, ih, Text.trim_eq_iff.2 (first.trims gap l.before),
      List.map_cons]

/-- Names that are written out are read back. -/
theorem ruleNames_names (gap : Blanks) (first : Name) (later : List Later) :
    ruleNames (gap.text ++ (Listing.names first later).text) = (Listing.names first later).rules := by
  have all : (first.text.toList :: later.map (·.name.text.toList)).filter (!·.isEmpty) =
      first.text.toList :: later.map (·.name.text.toList) := by
    rw [List.filter_eq_self, List.forall_mem_cons, List.forall_mem_map]
    have letters (n : Name) : (!n.text.toList.isEmpty) = true := by
      rw [Bool.not_eq_true', List.isEmpty_eq_false_iff]
      exact n.letters
    exact ⟨letters first, fun l _ => letters l.name⟩
  unfold ruleNames
  rw [Listing.text, map_trim_pieces, all]
  simp only [List.map_cons, List.map_map, Listing.rules, Function.comp_def, String.ofList_toList]

/-- What is written out ends with a letter of a name. -/
theorem ends_names (first : Name) (later : List Later) :
    ∀ c ∈ (first.text.toList ++ laterText later).getLast?, Text.isBlank c = false := by
  induction later generalizing first with
  | nil =>
    rw [laterText, List.flatMap_nil, List.append_nil]
    exact first.tight.ends
  | cons l later ih =>
    have some : l.name.text.toList ++ laterText later ≠ [] := List.append_ne_nil_of_left_ne_nil l.name.letters _
    have front : first.text.toList ++ laterText (l :: later) =
        (first.text.toList ++ l.before.text ++ ',' :: l.after.text) ++ (l.name.text.toList ++ laterText later) := by
      rw [laterText_cons]
      simp
    rw [front, List.getLast?_append_of_ne_nil _ some]
    exact ih l.name

/-- What follows the keyword once the blanks around the text are off. -/
def Layout.rest (l : Layout) : List Char :=
  match l.listing with
  | .empty => []
  | .names first later => l.gap.text ++ (Listing.names first later).text

theorem Layout.trims (l : Layout) (d : Directive) :
    Text.Trims (l.text d) ("sass-lint:".toList ++ (d.keyword.toList ++ l.rest)) := by
  have starts : ∀ c ∈ ("sass-lint:".toList ++ (d.keyword.toList ++ l.rest)).head?, Text.isBlank c = false := by
    intro c mem
    obtain rfl : 's' = c := Option.some.inj mem
    decide
  unfold text
  unfold rest at starts ⊢
  cases l.listing with
  | empty =>
    refine ⟨⟨l.before.text, l.gap.text ++ l.after.text, l.before.blank, ?_, ?_⟩, starts, ?_⟩
    · exact fun c mem => (List.mem_append.1 mem).elim (l.gap.blank c) (l.after.blank c)
    · simp [Listing.text]
    · intro c mem
      have last : ("sass-lint:".toList ++ (d.keyword.toList ++ [])).getLast? = some 'e' := by
        cases d <;> rfl
      obtain rfl : 'e' = c := Option.some.inj (last.symm.trans mem)
      decide
  | names first later =>
    refine ⟨⟨l.before.text, l.after.text, l.before.blank, l.after.blank, rfl⟩, starts, ?_⟩
    have some : (Listing.names first later).text ≠ [] := List.append_ne_nil_of_left_ne_nil first.letters _
    dsimp only
    rw [← List.append_assoc, ← List.append_assoc, List.getLast?_append_of_ne_nil _ some]
    exact ends_names first later

end Layout

/-- **Comments are read by the grammar of directives.** A text is read as a directive exactly when the grammar has it as
that directive, and the rules that are read are those of the grammar. So a list of names, written out with any blanks
around the text and on both sides of its commas, is read back as it was; an empty list is read as all rules. -/
theorem parse?_accepts_grammar :
    (∀ (text : List Char) (d : Directive) (rules : Set String),
      (∃ names, parse? text = some (d, names) ∧ {rule | rule ∈ names} = rules) ↔ Grammar text d rules) ∧
    ∀ (layout : Layout) (d : Directive),
      parse? (layout.text d) = some (d, if layout.listing.rules = [] then ["all"] else layout.listing.rules) := by
  refine ⟨fun text d rules => exists_parse?_iff, fun layout d => ?_⟩
  refine parse?_eq_some_iff.2 ⟨layout.rest, Text.trim_eq_iff.2 (layout.trims d), ?_, ?_⟩
  · unfold Layout.rest
    cases layout.listing with
    | empty => exact nofun
    | names first later =>
      intro c mem
      obtain ⟨b, more, gap⟩ := List.exists_cons_of_ne_nil layout.apart
      dsimp only at mem
      rw [gap] at mem
      obtain rfl : b = c := Option.some.inj mem
      exact layout.gap.blank b (gap ▸ List.mem_cons_self)
  · unfold Layout.rest
    cases layout.listing with
    | empty => rfl
    | names first later => exact ruleNames_names layout.gap first later

/-- A name with a blank inside, blanks that are not spaces, and a line end before a comma. -/
theorem parse?_accepts_grammar_sample :
    parse? "\tsass-lint:disable-line\u00a0zero unit\n,\u2003hex-notation ".toList =
      some (.line, ["zero unit", "hex-notation"]) ∧
    Grammar "\tsass-lint:disable-line\u00a0zero unit\n,\u2003hex-notation ".toList .line
      {rule | rule ∈ ["zero unit", "hex-notation"]} := by
  have read := parse?_accepts_grammar.2 ⟨⟨['\t'], by decide⟩, ⟨['\u00a0'], by decide⟩, List.cons_ne_nil _ _,
    .names ⟨"zero unit", by decide, by decide, by decide⟩
      [⟨⟨['\n'], by decide⟩, ⟨['\u2003'], by decide⟩, ⟨"hex-notation", by decide, by decide, by decide⟩⟩],
    ⟨[' '], by decide⟩⟩ .line
  exact ⟨read, (parse?_accepts_grammar.1 _ _ _).1 ⟨_, read, rfl⟩⟩

end Directive
end SheetLint
