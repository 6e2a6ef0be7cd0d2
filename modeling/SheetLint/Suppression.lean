import SheetLint.Directive
import SheetLint.Node.Walk

/-!
# What comments switch off

Each comment of a tree that is a directive switches rules off on one line. The
comments are gathered in visiting order into a table that has one entry for a
line: a comment about a line with an entry adds its rules to that entry. So
nothing that an earlier comment switched off is lost (`disabledB_add`), and the
table of a tree answers for all of its comments together (`disabledB_addAll`).
-/

namespace SheetLint
set_option autoImplicit false

/-- The line that a directive in a comment is about. -/
def Directive.lineOf (comment : NodeInfo) : Directive → Nat
  | line => comment.start.line
  | nextLine => comment.stop.nextLine

/-- Rules that are switched off on a line. -/
structure Suppression.Entry where
  line : Nat
  rules : List String
deriving DecidableEq, Repr, Inhabited

/-- What is switched off, with one entry for a line. -/
structure Suppression where
  entries : List Suppression.Entry
  distinct : (entries.map Suppression.Entry.line).Nodup
deriving DecidableEq

namespace Suppression

namespace Entry

/-- Whether the entry names the rule, or all rules. -/
def namesB (e : Entry) (rule : String) : Bool :=
  e.rules.contains rule || e.rules.contains Directive.everyRule

/-- The entries with one more. Where its line has an entry, that entry takes its rules. -/
def merge (e : Entry) : List Entry → List Entry
  | [] => [e]
  | old :: rest => if old.line = e.line then ⟨old.line, old.rules ++ e.rules⟩ :: rest else old :: merge e rest

theorem map_line_merge (e : Entry) (es : List Entry) :
    (merge e es).map line = if e.line ∈ es.map line then es.map line else es.map line ++ [e.line] := by
  induction es with
  | nil => rfl
  | cons old rest ih =>
    rw [merge]
    by_cases here : old.line = e.line
    · simp [here]
    · have other : ¬ e.line = old.line := fun same => here same.symm
      rw [if_neg here, List.map_cons, ih]
      by_cases later : e.line ∈ rest.map line
      · rw [if_pos later, List.map_cons, if_pos (List.mem_cons_of_mem _ later)]
      · have new : e.line ∉ old.line :: rest.map line := by
          rw [List.mem_cons, not_or]
          exact ⟨other, later⟩
        rw [if_neg later, List.map_cons, if_neg new, List.cons_append]

theorem nodup_merge {e : Entry} {es : List Entry} (distinct : (es.map line).Nodup) :
    ((merge e es).map line).Nodup := by
  rw [map_line_merge]
  split
  · exact distinct
  · next new =>
    refine List.nodup_append.2 ⟨distinct, List.pairwise_singleton _ _, ?_⟩
    intro a mem b own same
    rw [same, List.mem_singleton.1 own] at mem
    exact new mem

theorem merge_ne_nil (e : Entry) (es : List Entry) : merge e es ≠ [] := by
  cases es with
  | nil => exact List.cons_ne_nil _ _
  | cons old rest =>
    rw [merge]
    split <;> exact List.cons_ne_nil _ _

/-- One more entry changes the entry of its own line only, and there it adds rules. -/
theorem find?_merge (e : Entry) (es : List Entry) (line' : Nat) :
    (merge e es).find? (·.line == line') =
      if e.line = line' then some ⟨line', ((es.find? (·.line == line')).map rules).getD [] ++ e.rules⟩
      else es.find? (·.line == line') := by
  induction es with
  | nil =>
    rw [merge]
    by_cases own : e.line = line'
    · subst own
      simp
    · simp [own]
  | cons old rest ih =>
    rw [merge]
    by_cases here : old.line = e.line
    · rw [if_pos here]
      by_cases own : e.line = line'
      · subst own
        simp [here]
      · simp [here, own]
    · rw [if_neg here]
      by_cases found : old.line = line'
      · have own : ¬ e.line = line' := fun same => here (found.trans same.symm)
        rw [if_neg own, List.find?_cons_of_pos (by simp [found]), List.find?_cons_of_pos (by simp [found])]
      · rw [List.find?_cons_of_neg (by simp [found]), List.find?_cons_of_neg (by simp [found]), ih]

end Entry

/-- Nothing is switched off. -/
def empty : Suppression := ⟨[], List.nodup_nil⟩

/-- Whether nothing is switched off. -/
def isEmpty (s : Suppression) : Bool := s.entries.isEmpty

/-- The entry of a line. -/
def entryAt? (s : Suppression) (line : Nat) : Option Entry := s.entries.find? (·.line == line)

/-- Whether the rule is switched off on the line. -/
def disabledB (s : Suppression) (line : Nat) (rule : String) : Bool :=
  (s.entryAt? line).any (·.namesB rule)

/-- What is switched off with one entry more. -/
def add (s : Suppression) (e : Entry) : Suppression := ⟨e.merge s.entries, Entry.nodup_merge s.distinct⟩

/-- What is switched off with more entries, one after the other. -/
def addAll (s : Suppression) (es : List Entry) : Suppression := es.foldl add s

/-- The kinds of nodes that are comments. -/
def commentKinds : List String := ["singlelineComment", "multilineComment"]

theorem mem_commentKinds_iff {kind : String} :
    kind ∈ commentKinds ↔ kind = "singlelineComment" ∨ kind = "multilineComment" := by
  simp [commentKinds]

/-- What a node switches off, if it is a comment with a directive. -/
def ofNode? (n : Node) : Option Entry :=
  if commentKinds.contains n.kind then
    (n.text?.bind fun t => Directive.parse? t.toList).map fun p => ⟨p.1.lineOf n.info, p.2⟩
  else none

/-- What the comments of a tree switch off, each for itself. -/
def entriesOf (tree : Node) : List Entry := tree.descendants.filterMap ofNode?

/-- What the comments of a tree switch off. -/
def ofTree (tree : Node) : Suppression := empty.addAll (entriesOf tree)

section Lookup

variable (s : Suppression) (e : Entry) (line : Nat) (rule : String)

theorem entryAt?_add : (s.add e).entryAt? line =
    if e.line = line then some ⟨line, ((s.entryAt? line).map Entry.rules).getD [] ++ e.rules⟩ else s.entryAt? line :=
  e.find?_merge s.entries line

/-- Whether the entry by itself switches the rule off on the line. -/
def Entry.offB : Bool := e.line == line && e.namesB rule

variable {e line rule} in
theorem Entry.offB_iff : e.offB line rule = true ↔ e.line = line ∧ (rule ∈ e.rules ∨ "all" ∈ e.rules) := by
  simp [offB, namesB, Directive.everyRule]

/-- **One comment more.** What was switched off stays so, and what the comment names is switched off on its line. -/
theorem disabledB_add : (s.add e).disabledB line rule = (s.disabledB line rule || e.offB line rule) := by
  unfold disabledB Entry.offB
  rw [entryAt?_add]
  by_cases own : e.line = line
  · have merged (rules : List String) :
        Entry.namesB ⟨line, rules ++ e.rules⟩ rule = (Entry.namesB ⟨line, rules⟩ rule || e.namesB rule) := by
      simp only [Entry.namesB, List.contains_append]
      ac_rfl
    rw [if_pos own, Option.any_some, merged, beq_iff_eq.2 own, Bool.true_and]
    cases s.entryAt? line with
    | none => rfl
    | some old => rfl
  · rw [if_neg own, beq_false_of_ne own, Bool.false_and, Bool.or_false]

theorem isEmpty_add : (s.add e).isEmpty = false := List.isEmpty_eq_false_iff.2 (e.merge_ne_nil s.entries)

/-- **All comments together.** A rule is off on a line where it was, and where one of the entries says so. -/
theorem disabledB_addAll (es : List Entry) :
    (s.addAll es).disabledB line rule = (s.disabledB line rule || es.any (·.offB line rule)) := by
  unfold addAll
  induction es generalizing s with
  | nil => simp
  | cons e rest ih => rw [List.foldl_cons, ih, disabledB_add, List.any_cons, Bool.or_assoc]

theorem isEmpty_addAll (es : List Entry) : (s.addAll es).isEmpty = (s.isEmpty && es.isEmpty) := by
  unfold addAll
  induction es generalizing s with
  | nil => simp
  | cons e rest ih =>
    rw [List.foldl_cons, ih, isEmpty_add]
    simp

theorem addAll_append (es more : List Entry) : s.addAll (es ++ more) = (s.addAll es).addAll more := List.foldl_append

end Lookup

section Tree

variable (tree : Node) (line : Nat) (rule : String)

theorem disabledB_ofTree : (ofTree tree).disabledB line rule = (entriesOf tree).any (·.offB line rule) :=
  disabledB_addAll empty line rule (entriesOf tree)

theorem isEmpty_ofTree : (ofTree tree).isEmpty = (entriesOf tree).isEmpty := isEmpty_addAll empty (entriesOf tree)

end Tree

end Suppression
end SheetLint
