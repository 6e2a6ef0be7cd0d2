import SheetLint.Proofs.RepeatedRun

/-!
# Rulesets on lines of their own

Block spacing looks at rulesets that start on a line of their own after another item
of their stylesheet or block. `Apart` says which these are in terms of the indexes of
the children, and `checkIndex?` looks a child and what stands before it up by index; it
never asks for a child that is not there and finds what the scan along the children
finds (`checkIndex?_eq`, `checkChildren_eq_range`). The mode decides which of these
rulesets are offences and nothing else, so the two modes share them out.
-/

namespace SheetLint
set_option autoImplicit false

namespace Site

/-- The site of a child by its index. -/
def at? (parent : Node) (i : Nat) : Option Site :=
  parent.children[i]?.map fun n => ⟨parent.children.take i, n⟩

theorem following_eq_range (before nodes : List Node) :
    following before nodes =
      (List.range nodes.length).filterMap fun i => nodes[i]?.map fun n => ⟨before ++ nodes.take i, n⟩ := by
  induction nodes generalizing before with
  | nil => rfl
  | cons n rest ih =>
    rw [following, ih, List.length_cons, List.range_succ_eq_map, List.filterMap_cons, List.filterMap_map]
    simp [Function.comp_def]

theorem below_eq_range (parent : Node) :
    below parent = (List.range parent.children.length).filterMap (at? parent) :=
  following_eq_range [] parent.children

theorem mem_below_iff_at? {s : Site} {parent : Node} : s ∈ below parent ↔ ∃ i, at? parent i = some s := by
  rw [below_eq_range, List.mem_filterMap]
  constructor
  · rintro ⟨i, -, found⟩
    exact ⟨i, found⟩
  · rintro ⟨i, found⟩
    obtain ⟨n, child, -⟩ := Option.map_eq_some_iff.1 found
    obtain ⟨inside, -⟩ := List.getElem?_eq_some_iff.1 child
    exact ⟨i, List.mem_range.2 inside, found⟩

/-- The siblings before a child that is not the first end with the child before it. -/
theorem before_of_at? {s : Site} {parent : Node} {i : Nat} (found : at? parent (i + 1) = some s) :
    ∃ previous, parent.children[i]? = some previous ∧ s.before = parent.children.take i ++ [previous] := by
  obtain ⟨n, child, rfl⟩ := Option.map_eq_some_iff.1 found
  obtain ⟨inside, -⟩ := List.getElem?_eq_some_iff.1 child
  have there : i < parent.children.length := by omega
  exact ⟨parent.children[i], List.getElem?_eq_getElem there, List.take_succ_eq_append_getElem there⟩

end Site

namespace Rule.BlockSpacing

/-- The first children; none where there are not as many. -/
def firstChildren? (children : List Node) (count : Nat) : Option (List Node) :=
  if count ≤ children.length then some (children.take count) else none

/-- The finding at the child of an index, where all it takes is looked up by index; none where some index is out
of range. -/
def checkIndex? (wanted : Bool) (children : List Node) (i : Nat) : Option (Option Finding) :=
  children[i]?.bind fun ruleset =>
    if ruleset.isOf "ruleset" && decide (1 ≤ i) then
      children[i - 1]?.bind fun space =>
        if space.isOf "space" then
          (firstChildren? children (i - 1)).map fun earlier =>
            if earlier.all (·.isOf "space") then none else checkSpace wanted space ruleset
        else some none
    else some none

/-- Looking up by index finds what the scan finds at the child, and nothing where there is no child. -/
theorem checkIndex?_eq (wanted : Bool) (parent : Node) (i : Nat) :
    checkIndex? wanted parent.children i = (Site.at? parent i).map (findingAt wanted) := by
  cases child : parent.children[i]? with
  | none => simp [checkIndex?, Site.at?, child]
  | some n =>
    have site : Site.at? parent i = some ⟨parent.children.take i, n⟩ := by simp [Site.at?, child]
    cases i with
    | zero => simp [checkIndex?, child, site, findingAt, checkChild]
    | succ i =>
      obtain ⟨space, previous, before⟩ := Site.before_of_at? site
      obtain ⟨inside, -⟩ := List.getElem?_eq_some_iff.1 previous
      have earlier : firstChildren? parent.children i = some (parent.children.take i) := if_pos (Nat.le_of_lt inside)
      rw [site, Option.map_some, findingAt, before, List.dropLast_concat, List.getLast?_concat]
      simp only [checkIndex?, child, previous, earlier, checkChild, Option.bind_some, Option.map_some,
        Nat.add_sub_cancel, Nat.le_add_left, decide_true, Bool.and_true]
      cases n.isOf "ruleset" <;> cases space.isOf "space" <;>
        cases (parent.children.take i).all (·.isOf "space") <;> rfl

/-- No index that is looked up for a child is out of range. -/
theorem isSome_checkIndex? {parent : Node} {i : Nat} (inside : i < parent.children.length) (wanted : Bool) :
    (checkIndex? wanted parent.children i).isSome = true := by
  rw [checkIndex?_eq, Option.isSome_map, Site.at?, Option.isSome_map, List.getElem?_eq_getElem inside]
  rfl

/-- The scan along the children is the look-up at one index after the other. -/
theorem checkChildren_eq_range (wanted : Bool) (parent : Node) :
    checkChildren wanted parent =
      (List.range parent.children.length).filterMap fun i => (checkIndex? wanted parent.children i).join := by
  rw [checkChildren_eq, Site.below_eq_range, List.filterMap_filterMap]
  refine List.filterMap_congr fun i _ => ?_
  rw [checkIndex?_eq]
  cases Site.at? parent i <;> rfl

/-- The child `i` of a stylesheet or block is a ruleset that starts on a line of its own after another item: a
space with the text `white`, which has a line end, is right before it, and something other than spaces is among
the children before that. -/
structure Apart (parent : Node) (i : Nat) (ruleset : Node) (white : String) : Prop where
  container : parent.kind = "stylesheet" ∨ parent.kind = "block"
  child : parent.children[i]? = some ruleset
  isRuleset : ruleset.kind = "ruleset"
  later : 1 ≤ i
  space : ∃ space, parent.children[i - 1]? = some space ∧ space.kind = "space" ∧ space.text? = some white
  line : '\n' ∈ white.toList
  item : ∃ j item, j + 2 ≤ i ∧ parent.children[j]? = some item ∧ item.kind ≠ "space"

/-- The rule finds an offence of the ruleset that is the child `i` of a stylesheet or block. -/
def Flags (wanted : Bool) (parent : Node) (i : Nat) (ruleset : Node) : Prop :=
  (parent.kind = "stylesheet" ∨ parent.kind = "block") ∧
    ∃ text, checkIndex? wanted parent.children i = some (some (.offence ruleset text))

section Apart

variable {parent ruleset : Node} {i : Nat} {white : String} {wanted : Bool}

theorem Apart.unique {white' : String} (h : Apart parent i ruleset white) (h' : Apart parent i ruleset white') :
    white = white' := by
  obtain ⟨space, before, -, read⟩ := h.space
  obtain ⟨space', before', -, read'⟩ := h'.space
  obtain rfl := Option.some.inj (before.symm.trans before')
  exact Option.some.inj (read.symm.trans read')

theorem apart_iff {s : Site} (found : Site.at? parent i = some s) :
    Apart parent i s.node white ↔
      (parent.kind = "stylesheet" ∨ parent.kind = "block") ∧
        ∃ space, Separated s space ∧ space.text? = some white ∧ '\n' ∈ white.toList := by
  obtain ⟨n, child, rfl⟩ := Option.map_eq_some_iff.1 found
  constructor
  · rintro ⟨container, -, isRuleset, later, ⟨space, before, isSpace, read⟩, line, j, item, early, there, other⟩
    obtain ⟨k, rfl⟩ : ∃ k, i = k + 1 := ⟨i - 1, by omega⟩
    obtain ⟨previous, is, split⟩ := Site.before_of_at? found
    obtain rfl := Option.some.inj (before.symm.trans is)
    have mem : item ∈ parent.children.take k := by
      rw [List.mem_iff_getElem?]
      exact ⟨j, by rw [List.getElem?_take_of_lt (by omega), there]⟩
    exact ⟨container, space, ⟨isRuleset, isSpace, _, split, item, mem, other⟩, read, line⟩
  · rintro ⟨container, space, ⟨isRuleset, isSpace, earlier, split, item, mem, other⟩, read, line⟩
    cases i with
    | zero => exact absurd split (by simp)
    | succ k =>
      obtain ⟨previous, is, split'⟩ := Site.before_of_at? found
      obtain ⟨rfl, last⟩ := List.append_inj' (split.symm.trans split') rfl
      obtain rfl := List.singleton_inj.1 last
      obtain ⟨j, there⟩ := List.mem_iff_getElem?.1 mem
      obtain ⟨early, -⟩ := List.getElem?_eq_some_iff.1 there
      rw [List.length_take] at early
      have before_k : j < k := by omega
      rw [List.getElem?_take_of_lt before_k] at there
      exact ⟨container, child, isRuleset, by omega, ⟨space, is, isSpace, read⟩, line, j, item, by omega, there, other⟩

theorem Flags.exists_site (flags : Flags wanted parent i ruleset) :
    ∃ s, Site.at? parent i = some s ∧ s.node = ruleset := by
  obtain ⟨-, text, found⟩ := flags
  rw [checkIndex?_eq] at found
  obtain ⟨s, there, here⟩ := Option.map_eq_some_iff.1 found
  obtain ⟨same, -⟩ := findingAt_eq_offence_iff.1 here
  exact ⟨s, there, same⟩

/-- An offence by index is a violation at the site of the index. -/
theorem flags_iff_violates {s : Site} (found : Site.at? parent i = some s)
    (container : parent.kind = "stylesheet" ∨ parent.kind = "block") :
    Flags wanted parent i s.node ↔ (Check.blockSpacing wanted).Violates s := by
  rw [Flags, and_iff_right container, checkIndex?_eq, found, Option.map_some]
  simp only [Option.some.injEq, findingAt_eq_offence_iff, true_and, Check.Violates]
  constructor
  · rintro ⟨text, space, white, separated, read, line, blank, -⟩
    exact ⟨space, white, separated, read, line, blank⟩
  · rintro ⟨space, white, separated, read, line, blank⟩
    exact ⟨_, space, white, separated, read, line, blank, rfl⟩

/-- Only rulesets on lines of their own are offences, and of these the ones where the empty line is there though
it is not wanted, or is wanted and not there. -/
theorem flags_iff :
    Flags wanted parent i ruleset ↔
      ∃ white, Apart parent i ruleset white ∧ Text.hasBlankLine white.toList ≠ wanted := by
  constructor
  · intro flags
    obtain ⟨s, there, rfl⟩ := flags.exists_site
    obtain ⟨space, white, separated, read, line, blank⟩ := (flags_iff_violates there flags.1).1 flags
    exact ⟨white, (apart_iff there).2 ⟨flags.1, space, separated, read, line⟩, blank⟩
  · rintro ⟨white, apart, blank⟩
    have there : Site.at? parent i = some ⟨parent.children.take i, ruleset⟩ := by simp [Site.at?, apart.child]
    obtain ⟨container, space, separated, read, line⟩ := (apart_iff there).1 apart
    exact (flags_iff_violates there container).2 ⟨space, white, separated, read, line, blank⟩

theorem Apart.flags_iff (apart : Apart parent i ruleset white) :
    Flags wanted parent i ruleset ↔ Text.hasBlankLine white.toList ≠ wanted := by
  rw [BlockSpacing.flags_iff]
  constructor
  · rintro ⟨white', apart', blank⟩
    rwa [apart.unique apart']
  · intro blank
    exact ⟨white, apart, blank⟩

end Apart

/-- The mode has no part in what stops the rule. -/
theorem failureAt?_eq (wanted wanted' : Bool) (severity severity' : Severity) (s : Site) :
    (⟨.blockSpacing wanted, severity⟩ : Builtin).failureAt? s =
      (⟨.blockSpacing wanted', severity'⟩ : Builtin).failureAt? s := by
  have read (mode : Bool) (white : String) (space ruleset : Node) (text : space.text? = some white) :
      (checkSpace mode space ruleset).bind Finding.failure? = none := by
    rw [checkSpace, text]
    dsimp only
    split <;> rfl
  simp only [Builtin.failureAt?, Check.findingAt]
  by_cases some : ∃ space, Separated s space
  · obtain ⟨space, separated⟩ := some
    rw [findingAt_of_separated wanted separated, findingAt_of_separated wanted' separated]
    cases text : space.text? with
    | none => simp [checkSpace, text]
    | some white => rw [read wanted white space s.node text, read wanted' white space s.node text]
  · have none := not_exists.1 some
    rw [findingAt_of_not_separated wanted none, findingAt_of_not_separated wanted' none]

end Rule.BlockSpacing

namespace Rule

/-- The shapes that a rule records from an empty ledger are those of the violations. -/
theorem Builtin.exists_entry_iff {b : Builtin} {context : FileContext} {tree : Node}
    (ok : (b.rule.detect context tree .empty).failure = none) {target : Shape} :
    (∃ d ∈ (b.rule.detect context tree .empty).ledger.entries, d.shape = target) ↔
      ∃ s ∈ b.check.visits tree, b.check.Violates s ∧ shape s.node = target := by
  constructor
  · rintro ⟨d, mem, same⟩
    obtain ⟨s, visited, violates, text, -, rfl⟩ := exists_violation_of_mem_entries ok mem
    exact ⟨s, visited, violates, same⟩
  · rintro ⟨s, visited, violates, rfl⟩
    rw [← reached_of_ok ok] at visited
    have known := known_of_reached visited violates context .empty
    rw [← Bool.not_eq_true, Ledger.isNewB_iff] at known
    simp only [not_forall, not_not, exists_prop] at known
    exact known

namespace BlockSpacing

/-- The violations of a mode are the offences by index. -/
theorem exists_violation_iff {wanted : Bool} {tree : Node} {target : Shape} :
    (∃ s ∈ (Check.blockSpacing wanted).visits tree, (Check.blockSpacing wanted).Violates s ∧ shape s.node = target) ↔
      ∃ parent ∈ tree.preorder, ∃ i ruleset, Flags wanted parent i ruleset ∧ shape ruleset = target := by
  constructor
  · rintro ⟨s, visited, violates, same⟩
    obtain ⟨parent, kept, below⟩ := List.mem_flatMap.1 visited
    obtain ⟨mem, kind⟩ := List.mem_filter.1 kept
    obtain ⟨i, there⟩ := Site.mem_below_iff_at?.1 below
    have container : parent.kind = "stylesheet" ∨ parent.kind = "block" := by
      simpa [Node.isOf] using kind
    exact ⟨parent, mem, i, s.node, (flags_iff_violates there container).2 violates, same⟩
  · rintro ⟨parent, mem, i, ruleset, flags, same⟩
    obtain ⟨s, there, rfl⟩ := flags.exists_site
    have kind : (parent.isOf "stylesheet" || parent.isOf "block") = true := by
      simpa [Node.isOf] using flags.1
    exact ⟨s, List.mem_flatMap.2 ⟨parent, List.mem_filter.2 ⟨mem, kind⟩, Site.mem_below_iff_at?.2 ⟨i, there⟩⟩,
      (flags_iff_violates there flags.1).1 flags, same⟩

/-- **The two modes of block spacing share out the rulesets on lines of their own.** The mode that wants an empty
line fails when the other does and in the same way. A ruleset on a line of its own after another item of its
stylesheet or block is an offence in exactly one mode, and nothing else is one in either. Where the modes do not
fail, the shapes that both record from empty ledgers are together the shapes of these rulesets. Every index that a
check looks up is in range, and looking up by index finds what the rule finds. -/
theorem modes_share_out_rulesets (tree : Node) (context : FileContext) (severity severity' : Severity) :
    let wants : Builtin := ⟨.blockSpacing true, severity⟩
    let forbids : Builtin := ⟨.blockSpacing false, severity'⟩
    (∀ ledger ledger', (wants.rule.detect context tree ledger).failure =
      (forbids.rule.detect context tree ledger').failure) ∧
    (∀ parent i ruleset white, Apart parent i ruleset white →
      (Flags true parent i ruleset ↔ ¬ Flags false parent i ruleset)) ∧
    (∀ wanted parent i ruleset, Flags wanted parent i ruleset → ∃ white, Apart parent i ruleset white) ∧
    ((wants.rule.detect context tree .empty).failure = none → ∀ target,
      (∃ d ∈ (wants.rule.detect context tree .empty).ledger.entries ++
        (forbids.rule.detect context tree .empty).ledger.entries, d.shape = target) ↔
      ∃ parent ∈ tree.preorder, ∃ i ruleset white, Apart parent i ruleset white ∧ shape ruleset = target) ∧
    ∀ wanted parent,
      (∀ i < parent.children.length, (checkIndex? wanted parent.children i).isSome = true) ∧
      checkChildren wanted parent =
        (List.range parent.children.length).filterMap fun i => (checkIndex? wanted parent.children i).join := by
  intro wants forbids
  have alike (ledger ledger' : Ledger Detection) : (wants.rule.detect context tree ledger).failure =
      (forbids.rule.detect context tree ledger').failure := by
    rw [Builtin.detect_eq_reached, Builtin.detect_eq_reached]
    exact congrArg (List.findSome? · ((Check.blockSpacing true).visits tree)) (funext (failureAt?_eq _ _ _ _))
  refine ⟨alike, ?_, ?_, ?_, ?_⟩
  · intro parent i ruleset white apart
    rw [apart.flags_iff, apart.flags_iff]
    cases Text.hasBlankLine white.toList <;> simp
  · intro wanted parent i ruleset flags
    obtain ⟨white, apart, -⟩ := flags_iff.1 flags
    exact ⟨white, apart⟩
  · intro ok target
    have ok' : (forbids.rule.detect context tree .empty).failure = none := (alike _ _).symm.trans ok
    simp only [List.mem_append, or_and_right, exists_or]
    rw [Builtin.exists_entry_iff ok, Builtin.exists_entry_iff ok', exists_violation_iff, exists_violation_iff]
    constructor
    · rintro (⟨parent, mem, i, ruleset, flags, same⟩ | ⟨parent, mem, i, ruleset, flags, same⟩)
      all_goals
        obtain ⟨white, apart, -⟩ := flags_iff.1 flags
        exact ⟨parent, mem, i, ruleset, white, apart, same⟩
    · rintro ⟨parent, mem, i, ruleset, white, apart, same⟩
      cases blank : Text.hasBlankLine white.toList with
      | false => exact Or.inl ⟨parent, mem, i, ruleset, apart.flags_iff.2 (by simp [blank]), same⟩
      | true => exact Or.inr ⟨parent, mem, i, ruleset, apart.flags_iff.2 (by simp [blank]), same⟩
  · intro wanted parent
    exact ⟨fun i inside => isSome_checkIndex? inside wanted, checkChildren_eq_range wanted parent⟩

section Sample

/-- The ruleset after the declaration. -/
def laterRuleset : Node := .branch ⟨"ruleset", .scss, ⟨4, 3⟩, ⟨6, 3⟩, []⟩ []

/-- A block with a declaration, whitespace and a ruleset. -/
def blockWith (white : String) : Node :=
  .branch ⟨"block", .scss, ⟨1, 4⟩, ⟨7, 1⟩, []⟩
    [.branch ⟨"declaration", .scss, ⟨1, 6⟩, ⟨1, 15⟩, []⟩ [],
      .leaf ⟨"space", .scss, ⟨1, 16⟩, ⟨4, 2⟩, []⟩ white, laterRuleset]

theorem apart_blockWith {white : String} (line : '\n' ∈ white.toList) : Apart (blockWith white) 2 laterRuleset white :=
  ⟨Or.inr rfl, rfl, rfl, by decide, ⟨_, rfl, rfl, rfl⟩, line, 0, _, by decide, rfl, by decide⟩

/-- The whitespace is a line end and the indentation: only one of the modes complains of the ruleset, and the
ruleset's shape is recorded. -/
theorem modes_share_out_rulesets_sample :
    let wants : Builtin := ⟨.blockSpacing true, .warning⟩
    let forbids : Builtin := ⟨.blockSpacing false, .error⟩
    (Flags true (blockWith "\n  ") 2 laterRuleset ↔ ¬ Flags false (blockWith "\n  ") 2 laterRuleset) ∧
    (wants.rule.detect default (blockWith "\n  ") .empty).failure = none ∧
    ∃ d ∈ (wants.rule.detect default (blockWith "\n  ") .empty).ledger.entries ++
      (forbids.rule.detect default (blockWith "\n  ") .empty).ledger.entries, d.shape = shape laterRuleset := by
  intro wants forbids
  have apart : Apart (blockWith "\n  ") 2 laterRuleset "\n  " := apart_blockWith (by decide +kernel)
  have works : (wants.rule.detect default (blockWith "\n  ") .empty).failure = none := by
    rw [Builtin.detect_eq_reached]
    decide +kernel
  obtain ⟨-, split, -, shapes, -⟩ := modes_share_out_rulesets (blockWith "\n  ") default .warning .error
  refine ⟨split _ _ _ _ apart, works, (shapes works _).2 ?_⟩
  exact ⟨_, Node.self_mem_preorder _, 2, laterRuleset, "\n  ", apart, rfl⟩

end Sample
end BlockSpacing
end Rule
end SheetLint
