import SheetLint.Proofs.DirectiveEffect

/-!
# What the comments of a tree switch off

The comments of a tree are collected on one walk, into one entry for each line. Several comments can
be about one line, by their own line or by the line after them, and then all of them count. So a rule
is off on a line exactly when some comment of the tree says so (`disabledB_ofTree_iff`), at whatever
depth and in whatever order the comments stand.
-/

namespace SheetLint.Suppression
set_option autoImplicit false

/-- The leaf is a comment whose text is a directive about the named rules. -/
structure IsDirective (info : NodeInfo) (text : String) (d : Directive) (names : List String) : Prop where
  comment : info.kind = "singlelineComment" ∨ info.kind = "multilineComment"
  directive : Directive.parse? text.toList = some (d, names)

/-- A node switches something off exactly when it is a comment with a directive. -/
theorem ofNode?_eq_some_iff {n : Node} {e : Entry} :
    ofNode? n = some e ↔ ∃ info text d names, n = .leaf info text ∧ IsDirective info text d names ∧
      e = ⟨d.lineOf info, names⟩ := by
  constructor
  · intro found
    cases n with
    | branch info children =>
      rw [ofNode?_branch] at found
      cases found
    | leaf info text =>
      by_cases isComment : info.kind ∈ commentKinds
      · rw [ofNode?_comment isComment, Option.map_eq_some_iff] at found
        obtain ⟨⟨d, names⟩, directive, rfl⟩ := found
        exact ⟨info, text, d, names, rfl, ⟨mem_commentKinds_iff.1 isComment, directive⟩, rfl⟩
      · have other : ¬ commentKinds.contains (Node.leaf info text).kind = true := by
          rwa [List.contains_iff_mem]
        rw [ofNode?, if_neg other] at found
        cases found
  · rintro ⟨info, text, d, names, rfl, ⟨comment, directive⟩, rfl⟩
    rw [ofNode?_comment (mem_commentKinds_iff.2 comment), directive]
    rfl

theorem mem_entriesOf_iff {tree : Node} {e : Entry} :
    e ∈ entriesOf tree ↔ ∃ info text d names, (Node.leaf info text).Within tree ∧ IsDirective info text d names ∧
      e = ⟨d.lineOf info, names⟩ := by
  simp only [entriesOf, List.mem_filterMap, Node.mem_descendants_iff, ofNode?_eq_some_iff]
  constructor
  · rintro ⟨n, inside, info, text, d, names, rfl, is, rfl⟩
    exact ⟨info, text, d, names, inside, is, rfl⟩
  · rintro ⟨info, text, d, names, inside, is, rfl⟩
    exact ⟨_, inside, info, text, d, names, rfl, is, rfl⟩

theorem disabledB_ofTree_iff_exists {tree : Node} {line : Nat} {rule : String} :
    disabledB (ofTree tree) line rule = true ↔ ∃ e ∈ entriesOf tree, e.offB line rule = true := by
  rw [disabledB_ofTree, List.any_eq_true]

theorem disabledB_ofTree_iff {tree : Node} {line : Nat} {rule : String} :
    disabledB (ofTree tree) line rule = true ↔
      ∃ info text d names, (Node.leaf info text).Within tree ∧ IsDirective info text d names ∧
        (rule ∈ names ∨ "all" ∈ names) ∧ line = d.lineOf info := by
  rw [disabledB_ofTree_iff_exists]
  constructor
  · rintro ⟨e, mem, off⟩
    obtain ⟨info, text, d, named, inside, is, rfl⟩ := mem_entriesOf_iff.1 mem
    obtain ⟨line, names⟩ := Entry.offB_iff.1 off
    exact ⟨info, text, d, named, inside, is, names, line.symm⟩
  · rintro ⟨info, text, d, names, inside, is, named, rfl⟩
    exact ⟨_, mem_entriesOf_iff.2 ⟨info, text, d, names, inside, is, rfl⟩, Entry.offB_iff.2 ⟨rfl, named⟩⟩

theorem isEmpty_ofTree_iff_forall {tree : Node} : (ofTree tree).isEmpty = true ↔ ∀ e, e ∉ entriesOf tree := by
  rw [isEmpty_ofTree, List.isEmpty_iff, List.eq_nil_iff_forall_not_mem]

theorem isEmpty_ofTree_iff {tree : Node} :
    (ofTree tree).isEmpty = true ↔
      ¬ ∃ info text d names, (Node.leaf info text).Within tree ∧ IsDirective info text d names := by
  rw [isEmpty_ofTree_iff_forall]
  constructor
  · rintro none ⟨info, text, d, names, inside, is⟩
    exact none _ (mem_entriesOf_iff.2 ⟨info, text, d, names, inside, is, rfl⟩)
  · intro none e mem
    obtain ⟨info, text, d, names, inside, is, -⟩ := mem_entriesOf_iff.1 mem
    exact none ⟨info, text, d, names, inside, is⟩

/-- Trees with the same directives make the same entries, wherever the directives stand. -/
theorem mem_entriesOf_of_same_directives {tree tree' : Node}
    (same : ∀ info text d names, IsDirective info text d names →
      ((Node.leaf info text).Within tree ↔ (Node.leaf info text).Within tree')) (e : Entry) :
    e ∈ entriesOf tree ↔ e ∈ entriesOf tree' := by
  rw [mem_entriesOf_iff, mem_entriesOf_iff]
  constructor
  · rintro ⟨info, text, d, names, inside, is, rfl⟩
    exact ⟨info, text, d, names, (same _ _ _ _ is).1 inside, is, rfl⟩
  · rintro ⟨info, text, d, names, inside, is, rfl⟩
    exact ⟨info, text, d, names, (same _ _ _ _ is).2 inside, is, rfl⟩

/-- **The comments of a tree decide what is off, all of them together.** A rule is off on a line
exactly when some comment in the tree is a directive about that line that names the rule or all
rules. The line after a comment has the number after that of its last line, unless this is the
largest there is. Nothing is suppressed exactly when no comment is a directive. Trees that hold the
same directives therefore answer alike, in whatever order and however deep the directives stand. -/
theorem disabled_exactly_by_comments (tree : Node) :
    (∀ line rule, disabledB (ofTree tree) line rule = true ↔
      ∃ info text d names, (Node.leaf info text).Within tree ∧ IsDirective info text d names ∧
        (rule ∈ names ∨ "all" ∈ names) ∧ line = d.lineOf info) ∧
    (∀ info : NodeInfo, Directive.line.lineOf info = info.start.line ∧
      (info.stop.line < Node.maxNat → Directive.nextLine.lineOf info = info.stop.line + 1)) ∧
    ((ofTree tree).isEmpty = true ↔
      ¬ ∃ info text d names, (Node.leaf info text).Within tree ∧ IsDirective info text d names) ∧
    ∀ tree' : Node,
      (∀ info text d names, IsDirective info text d names →
        ((Node.leaf info text).Within tree ↔ (Node.leaf info text).Within tree')) →
      (∀ line rule, disabledB (ofTree tree) line rule = disabledB (ofTree tree') line rule) ∧
      (ofTree tree).isEmpty = (ofTree tree').isEmpty := by
  refine ⟨fun _ _ => disabledB_ofTree_iff, fun _ => ⟨rfl, Position.nextLine_of_lt⟩, isEmpty_ofTree_iff, ?_⟩
  intro tree' same
  have alike := mem_entriesOf_of_same_directives same
  constructor
  · intro line rule
    rw [Bool.eq_iff_iff, disabledB_ofTree_iff_exists, disabledB_ofTree_iff_exists]
    simp only [alike]
  · rw [Bool.eq_iff_iff, isEmpty_ofTree_iff_forall, isEmpty_ofTree_iff_forall]
    simp only [alike]

/-- A comment on the lines from `first` to `last`. -/
def sampleComment (kind : String) (first last : Nat) (text : String) : Node :=
  .leaf ⟨kind, .scss, ⟨first, 1⟩, ⟨last, 40⟩, []⟩ text

/-- Two comments about line 3, one of them inside a block: the first by the line after its end. -/
def sampleNested : Node :=
  .branch ⟨"stylesheet", .scss, ⟨1, 1⟩, ⟨3, 40⟩, []⟩
    [.branch ⟨"block", .scss, ⟨1, 1⟩, ⟨2, 40⟩, []⟩
      [sampleComment "multilineComment" 1 2 "sass-lint:disable-next-line zero-unit"],
    sampleComment "singlelineComment" 3 3 " sass-lint:disable-line hex-notation"]

/-- The same comments beside each other, the other way round. -/
def sampleFlat : Node :=
  .branch ⟨"stylesheet", .scss, ⟨1, 1⟩, ⟨3, 40⟩, []⟩
    [sampleComment "singlelineComment" 3 3 " sass-lint:disable-line hex-notation",
    sampleComment "multilineComment" 1 2 "sass-lint:disable-next-line zero-unit"]

/-- Both rules are off on line 3, the first not on the line where its comment starts, and both trees answer alike. -/
theorem disabled_exactly_by_comments_sample :
    disabledB (ofTree sampleNested) 3 "zero-unit" = true ∧ disabledB (ofTree sampleNested) 3 "hex-notation" = true ∧
    disabledB (ofTree sampleNested) 1 "zero-unit" = false ∧
    ∀ line rule, disabledB (ofTree sampleNested) line rule = disabledB (ofTree sampleFlat) line rule := by
  have same (info : NodeInfo) (text : String) :
      (Node.leaf info text).Within sampleNested ↔ (Node.leaf info text).Within sampleFlat := by
    simp [← Node.mem_descendants_iff, Node.descendants_eq_preorder, sampleNested, sampleFlat, sampleComment,
      Node.preorder, Node.preorderAll, or_comm]
  have alike := (disabled_exactly_by_comments sampleNested).2.2.2 sampleFlat fun info text _ _ _ => same info text
  refine ⟨?_, ?_, ?_, alike.1⟩
  all_goals rw [ofTree, entriesOf, Node.descendants_eq_preorder]; decide +kernel

end SheetLint.Suppression
