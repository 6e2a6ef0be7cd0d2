import SheetLint.Proofs.LineEnds
import SheetLint.Proofs.SpacedRulesets

/-!
# Empty lines before rulesets

Block spacing looks for a blank line in the whitespace right before a ruleset. It sees
one exactly where the lines inside this whitespace are all empty and there is one, and
each mode flags rulesets by that. Whitespace with an empty line beside a line of spaces
is taken for whitespace without an empty line.
-/

namespace SheetLint
set_option autoImplicit false

namespace Rule.BlockSpacing

/-- **Which empty lines block spacing sees.** For every whitespace: a blank line is seen in it exactly where it has
an empty line inside and no line inside it has something on it. So of a ruleset on a line of its own after another
item, with this whitespace right before it, the mode that wants an empty line complains unless the lines inside are
all empty and there is one, and the other mode complains then. Where no line with something on it stands beside an
empty one, this is whether some `\n` is followed by a line end. -/
theorem blank_line_only_among_empty_lines (white : String) :
    (Text.hasBlankLine white.toList = true ↔ Text.OnlyEmptyLines white.toList) ∧
    ((Text.HasEmptyLine white.toList → Text.OnlyEmptyLines white.toList) →
      (Text.hasBlankLine white.toList = true ↔ Text.HasEmptyLine white.toList)) ∧
    ∀ parent i ruleset, Apart parent i ruleset white →
      (Flags true parent i ruleset ↔ ¬ Text.OnlyEmptyLines white.toList) ∧
      (Flags false parent i ruleset ↔ Text.OnlyEmptyLines white.toList) ∧
      ((Text.HasEmptyLine white.toList → Text.OnlyEmptyLines white.toList) →
        (Flags true parent i ruleset ↔ ¬ Text.HasEmptyLine white.toList) ∧
        (Flags false parent i ruleset ↔ Text.HasEmptyLine white.toList)) := by
  have seen := @Text.hasBlankLine_iff white.toList
  have unmixed (plain : Text.HasEmptyLine white.toList → Text.OnlyEmptyLines white.toList) :
      Text.OnlyEmptyLines white.toList ↔ Text.HasEmptyLine white.toList := ⟨And.left, plain⟩
  refine ⟨seen, fun plain => seen.trans (unmixed plain), ?_⟩
  intro parent i ruleset apart
  have wants : Flags true parent i ruleset ↔ ¬ Text.OnlyEmptyLines white.toList := by
    rw [apart.flags_iff, Ne, seen]
  have forbids : Flags false parent i ruleset ↔ Text.OnlyEmptyLines white.toList := by
    rw [apart.flags_iff, Ne, Bool.not_eq_false, seen]
  refine ⟨wants, forbids, fun plain => ?_⟩
  rw [wants, forbids, unmixed plain]
  exact ⟨Iff.rfl, Iff.rfl⟩

section Sample

/-- Two empty lines, one of them with `\r`, and then the indentation: only the mode that wants none complains. -/
theorem blank_line_only_among_empty_lines_sample :
    Text.hasBlankLine "\n\r\n\n  ".toList = true ∧
    ¬ Flags true (blockWith "\n\r\n\n  ") 2 laterRuleset ∧ Flags false (blockWith "\n\r\n\n  ") 2 laterRuleset := by
  have blank : Text.hasBlankLine "\n\r\n\n  ".toList = true := by decide +kernel
  obtain ⟨seen, -, flags⟩ := blank_line_only_among_empty_lines "\n\r\n\n  "
  obtain ⟨wants, forbids, -⟩ := flags _ 2 laterRuleset (apart_blockWith (by decide +kernel))
  have only := seen.1 blank
  exact ⟨blank, fun flagged => wants.1 flagged only, forbids.2 only⟩

/-- An empty line and then a line of spaces: the empty line is there and not seen, and the mode that wants one
complains while the other does not. -/
theorem empty_line_beside_spaces_not_seen :
    Text.HasEmptyLine "\n\n  \n  ".toList ∧ Text.hasBlankLine "\n\n  \n  ".toList = false ∧
    Apart (blockWith "\n\n  \n  ") 2 laterRuleset "\n\n  \n  " ∧
    Flags true (blockWith "\n\n  \n  ") 2 laterRuleset ∧ ¬ Flags false (blockWith "\n\n  \n  ") 2 laterRuleset := by
  have unseen : Text.hasBlankLine "\n\n  \n  ".toList = false := by decide +kernel
  have apart : Apart (blockWith "\n\n  \n  ") 2 laterRuleset "\n\n  \n  " := apart_blockWith (by decide +kernel)
  refine ⟨Or.inl ⟨[], "  \n  ".toList, by decide +kernel⟩, unseen, apart, ?_, ?_⟩
  · rw [apart.flags_iff, unseen]
    decide
  · rw [apart.flags_iff, unseen]
    decide

end Sample
end Rule.BlockSpacing
end SheetLint
