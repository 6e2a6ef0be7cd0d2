import SheetLint.Proofs.Malformations

/-!
# The running maximum of a block

The scan of a block keeps one rank with the property that has it. At every child this is the
highest rank among the declarations before, in its latest spelling, so the scan submits exactly
the declarations that come after one of a higher rank (`record_checkBlock`). It has nothing to
submit exactly when the ranks in the block never go down (`entries_checkBlock_eq_nil_iff`), and a
ledger that starts empty stays so exactly then, block by block over a whole tree.
-/

namespace SheetLint
set_option autoImplicit false

theorem Ledger.entries_addAll_empty_eq_nil_iff {α : Type} [Shaped α] {xs : List α} :
    (Ledger.empty.addAll xs).entries = [] ↔ xs = [] := by
  cases xs with
  | nil => exact ⟨fun _ => rfl, fun _ => rfl⟩
  | cons x rest =>
    -- the first thing that comes is new to an empty ledger
    have first : x ∈ (Ledger.empty.addAll (x :: rest)).entries := by
      rw [addAll_entries, show (empty : Ledger α).entries = [] from rfl, List.map_nil, List.nil_append, newTo,
        if_neg List.not_mem_nil]
      exact List.mem_cons_self
    constructor
    · intro none
      rw [none] at first
      exact absurd first List.not_mem_nil
    · intro none
      exact absurd none (List.cons_ne_nil x rest)

theorem Site.forall_following_iff {R : Node → Node → Prop} {before nodes : List Node} :
    (∀ s ∈ following before nodes, ∀ d ∈ s.before, R d s.node) ↔
      (∀ d ∈ before, ∀ n ∈ nodes, R d n) ∧ nodes.Pairwise R := by
  induction nodes generalizing before with
  | nil => simp [following]
  | cons n rest ih =>
    rw [following, List.forall_mem_cons, ih, List.pairwise_cons]
    simp only [List.forall_mem_append, List.forall_mem_singleton, List.forall_mem_cons (l := rest)]
    constructor
    · rintro ⟨here, ⟨earlier, later⟩, pairs⟩
      exact ⟨fun d mem => ⟨here d mem, earlier d mem⟩, later, pairs⟩
    · rintro ⟨earlier, later, pairs⟩
      exact ⟨fun d mem => (earlier d mem).1, ⟨fun d mem => (earlier d mem).2, later⟩, pairs⟩

/-- What holds between each child and those before it holds between every two children, in order. -/
theorem Site.forall_below_iff {R : Node → Node → Prop} {parent : Node} :
    (∀ s ∈ below parent, ∀ d ∈ s.before, R d s.node) ↔ parent.children.Pairwise R := by
  rw [below, forall_following_iff]
  simp

namespace Rule.DeclarationOrder

/-- The child is a declaration with a rank and comes after one of its block that ranks strictly higher. -/
def Misplaced (policy : Order.Policy) (s : Site) : Prop :=
  ∃ rank property, Ranks policy s.node rank property ∧
    ∃ d ∈ s.before, ∃ higher other, Ranks policy d higher other ∧ rank.ltB higher = true

/-- The ranks of the declarations that stand directly in a block, in order, as far as they have one. -/
def ranksIn (policy : Order.Policy) (block : Node) : List Order.Rank :=
  block.children.filterMap fun n => (ranked? policy n).map Prod.fst

/-- The second of two children does not rank below the first. -/
def InOrder (policy : Order.Policy) (d n : Node) : Prop :=
  ∀ earlier, (ranked? policy d).map Prod.fst = some earlier →
    ∀ rank, (ranked? policy n).map Prod.fst = some rank → rank.ltB earlier = false

/-- What is said about a child of a block. -/
def remark? (policy : Order.Policy) (s : Site) : Option String :=
  match ranked? policy s.node, highest policy s.before with
  | some r, some top => if r.1.ltB top.1 then some s!"Expected `{r.2}` to come before `{top.2}`" else none
  | _, _ => none

/-- The misplaced children of a block with what is said about them, in order. -/
def remarks (policy : Order.Policy) (block : Node) : List (Site × String) :=
  (Site.below block).filterMap fun s => (remark? policy s).map (s, ·)

section Child

variable {policy : Order.Policy} {s : Site}

theorem findingAt_eq_remark : findingAt policy s = (remark? policy s).map (.offence s.node) := by
  unfold findingAt remark?
  cases ranked? policy s.node with
  | none => rfl
  | some r =>
    cases highest policy s.before with
    | none => rfl
    | some top =>
      by_cases low : r.1.ltB top.1 = true
      · simp [low]
      · simp [low]

theorem remark?_eq_some_iff {text : String} :
    remark? policy s = some text ↔
      ∃ rank property top latest, Ranks policy s.node rank property ∧ IsHighest policy s.before top latest ∧
        rank.ltB top = true ∧ s!"Expected `{property}` to come before `{latest}`" = text := by
  have offence := @findingAt_eq_offence_iff policy s s.node text
  rw [findingAt_eq_remark] at offence
  simpa using offence

theorem isSome_remark?_iff : (remark? policy s).isSome = true ↔ Misplaced policy s := by
  rw [Option.isSome_iff_exists]
  constructor
  · rintro ⟨text, said⟩
    obtain ⟨rank, property, top, latest, ranks, isHighest, low, -⟩ := remark?_eq_some_iff.1 said
    exact ⟨rank, property, ranks, exists_above_iff.2 ⟨top, latest, isHighest, low⟩⟩
  · rintro ⟨rank, property, ranks, above⟩
    obtain ⟨top, latest, isHighest, low⟩ := exists_above_iff.1 above
    exact ⟨_, remark?_eq_some_iff.2 ⟨rank, property, top, latest, ranks, isHighest, low, rfl⟩⟩

instance : Decidable (Misplaced policy s) :=
  decidable_of_iff _ isSome_remark?_iff

/-- A child is in place exactly when it is in order with each one before it. -/
theorem not_misplaced_iff : ¬ Misplaced policy s ↔ ∀ d ∈ s.before, InOrder policy d s.node := by
  simp only [InOrder, Option.map_eq_some_iff, Prod.exists, exists_and_right, exists_eq_right, ranked?_eq_some_iff,
    ← Bool.not_eq_true]
  constructor
  · rintro clear d mem earlier ⟨other, at_d⟩ rank ⟨property, ranks⟩ low
    exact clear ⟨rank, property, ranks, d, mem, earlier, other, at_d, low⟩
  · rintro clear ⟨rank, property, ranks, d, mem, higher, other, at_d, low⟩
    exact clear d mem higher ⟨other, at_d⟩ rank ⟨property, ranks⟩ low

variable {severity : Severity}

theorem failureAt?_declarationOrder : (⟨.declarationOrder policy, severity⟩ : Builtin).failureAt? s = none := by
  have finding : (Check.declarationOrder policy).findingAt s = (remark? policy s).map (.offence s.node) :=
    findingAt_eq_remark
  rw [Builtin.failureAt?, finding]
  cases remark? policy s <;> rfl

theorem detectionAt?_declarationOrder :
    (⟨.declarationOrder policy, severity⟩ : Builtin).detectionAt? s =
      (remark? policy s).map (.ofNode name severity s.node) := by
  have finding : (Check.declarationOrder policy).findingAt s = (remark? policy s).map (.offence s.node) :=
    findingAt_eq_remark
  rw [Builtin.detectionAt?, finding]
  cases remark? policy s <;> rfl

end Child

section Block

variable {policy : Order.Policy} {block : Node}

theorem sites_remarks : (remarks policy block).map Prod.fst = (Site.below block).filter fun s => Misplaced policy s := by
  have misplaced (s : Site) : ((remark? policy s).map (s, ·)).map Prod.fst =
      Option.guard (fun s => decide (Misplaced policy s)) s := by
    cases said : remark? policy s with
    | none =>
      have fine : ¬ Misplaced policy s := by
        rw [← isSome_remark?_iff, said]
        simp
      simp [Option.guard, fine]
    | some text =>
      have wrong : Misplaced policy s := isSome_remark?_iff.1 (by rw [said]; rfl)
      simp [Option.guard, wrong]
  rw [remarks, List.map_filterMap, ← List.filterMap_eq_filter]
  exact List.filterMap_congr fun s _ => misplaced s

/-- What the remarks of a block report. -/
theorem filterMap_detectionAt?_below (severity : Severity) :
    (Site.below block).filterMap (⟨.declarationOrder policy, severity⟩ : Builtin).detectionAt? =
      (remarks policy block).map fun o => .ofNode name severity o.1.node o.2 := by
  rw [remarks, List.map_filterMap]
  refine List.filterMap_congr fun s _ => ?_
  rw [detectionAt?_declarationOrder, Option.map_map]
  rfl

/-- The scan of a block submits what it has to say, and never fails. -/
theorem record_checkBlock (severity : Severity) (ledger : Ledger Detection) :
    record name severity (checkBlock policy block) ledger =
      ⟨ledger.addAll ((remarks policy block).map fun o => .ofNode name severity o.1.node o.2), none⟩ := by
  have run := Builtin.record_append (b := ⟨.declarationOrder policy, severity⟩)
    (fun s (_ : s ∈ Site.below block) => failureAt?_declarationOrder) [] ledger
  rw [List.append_nil, filterMap_detectionAt?_below] at run
  rw [checkBlock_eq]
  exact run

/-- A block has nothing misplaced exactly when its ranks never go down. -/
theorem remarks_eq_nil_iff :
    remarks policy block = [] ↔ (ranksIn policy block).Pairwise fun a b => b.ltB a = false := by
  calc remarks policy block = []
      ↔ (remarks policy block).map Prod.fst = [] := List.map_eq_nil_iff.symm
    _ ↔ ∀ s ∈ Site.below block, ¬ Misplaced policy s := by
      rw [sites_remarks, List.filter_eq_nil_iff]
      simp only [decide_eq_true_eq]
    _ ↔ block.children.Pairwise (InOrder policy) := by
      simp only [not_misplaced_iff]
      exact Site.forall_below_iff
    _ ↔ (ranksIn policy block).Pairwise fun a b => b.ltB a = false := by
      rw [ranksIn, List.pairwise_filterMap]
      rfl

theorem entries_checkBlock_eq_nil_iff {severity : Severity} :
    (record name severity (checkBlock policy block) .empty).ledger.entries = [] ↔
      (ranksIn policy block).Pairwise fun a b => b.ltB a = false := by
  rw [record_checkBlock, ← remarks_eq_nil_iff, Ledger.entries_addAll_empty_eq_nil_iff, List.map_eq_nil_iff]

end Block

section Tree

variable {policy : Order.Policy} {severity : Severity} {context : FileContext} {tree : Node}

/-- The rule goes through the blocks of a tree and never fails. -/
theorem detect_eq_addAll (ledger : Ledger Detection) :
    ((rule policy).withSeverity severity).detect context tree ledger =
      ⟨ledger.addAll ((tree.descendants.filter (·.isOf "block")).flatMap fun block =>
        (remarks policy block).map fun o => .ofNode name severity o.1.node o.2), none⟩ := by
  have run := @Builtin.detect_of_fine ⟨.declarationOrder policy, severity⟩ context tree ledger
    fun s _ => failureAt?_declarationOrder
  have reported : ((Check.declarationOrder policy).visits tree).filterMap
        (⟨.declarationOrder policy, severity⟩ : Builtin).detectionAt? =
      (tree.descendants.filter (·.isOf "block")).flatMap fun block =>
        (remarks policy block).map fun o => .ofNode name severity o.1.node o.2 := by
    rw [Node.descendants_eq_preorder, Check.visits, List.filterMap_flatMap]
    simp only [filterMap_detectionAt?_below]
  rw [reported] at run
  exact run

theorem entries_detect_eq_nil_iff :
    (((rule policy).withSeverity severity).detect context tree .empty).ledger.entries = [] ↔
      ∀ block ∈ tree.descendants, block.kind = "block" →
        (ranksIn policy block).Pairwise fun a b => b.ltB a = false := by
  rw [detect_eq_addAll, Ledger.entries_addAll_empty_eq_nil_iff, List.flatMap_eq_nil_iff]
  simp only [List.map_eq_nil_iff, remarks_eq_nil_iff, List.mem_filter, Node.isOf, beq_iff_eq, and_imp]

end Tree

/-- **The running maximum of a block.** Whatever the ledger holds, the scan of a block submits to it, in order,
exactly the declarations that have a rank and come after one of the block with a strictly higher rank, and it never
fails. What it says of each names its property as written and that of the last declaration before it whose rank is the
highest of all before it. So the rule leaves an empty ledger empty exactly on the trees in whose blocks the ranks
of the declarations never go down. -/
theorem checkBlock_submits_misplaced (policy : Order.Policy) (severity : Severity) :
    (∀ (block : Node) (ledger : Ledger Detection), ∃ submitted : List (Site × String),
      record name severity (checkBlock policy block) ledger =
        ⟨ledger.addAll (submitted.map fun o => .ofNode name severity o.1.node o.2), none⟩ ∧
      submitted.map Prod.fst = (Site.below block).filter (fun s => Misplaced policy s) ∧
      ∀ o ∈ submitted, ∃ rank property top latest, Ranks policy o.1.node rank property ∧
        IsHighest policy o.1.before top latest ∧ o.2 = s!"Expected `{property}` to come before `{latest}`") ∧
    ∀ (context : FileContext) (tree : Node),
      (((rule policy).withSeverity severity).detect context tree .empty).ledger.entries = [] ↔
        ∀ block ∈ tree.descendants, block.kind = "block" →
          (ranksIn policy block).Pairwise fun a b => b.ltB a = false := by
  refine ⟨fun block ledger => ?_, fun context tree => entries_detect_eq_nil_iff⟩
  refine ⟨remarks policy block, record_checkBlock severity ledger, sites_remarks, fun o mem => ?_⟩
  obtain ⟨s, -, pair⟩ := List.mem_filterMap.1 mem
  obtain ⟨text, said, rfl⟩ := Option.map_eq_some_iff.1 pair
  obtain ⟨rank, property, top, latest, ranks, isHighest, -, rfl⟩ := remark?_eq_some_iff.1 said
  exact ⟨rank, property, top, latest, ranks, isHighest, rfl⟩

/-- A declaration on a line of its own. -/
def sampleDeclaration (line : Nat) (property : String) : Node :=
  .branch ⟨"declaration", .scss, ⟨line, 3⟩, ⟨line, 30⟩, []⟩
    [.branch ⟨"property", .scss, ⟨line, 3⟩, ⟨line, 20⟩, []⟩ [.leaf ⟨"ident", .scss, ⟨line, 3⟩, ⟨line, 20⟩, []⟩ property]]

/-- A block of declarations, one on each line. -/
def sampleBlock (properties : List String) : Node :=
  .branch ⟨"block", .scss, ⟨1, 1⟩, ⟨properties.length + 2, 1⟩, []⟩
    (properties.zipIdx.map fun p => sampleDeclaration (p.2 + 2) p.1)

-- of two spellings of one rank the later is named, and a property without a rank changes nothing
example : (remarks (.ofNames ["width", "transition"])
      (sampleBlock ["transition", "-webkit-transition", "color", "width"])).map Prod.snd =
    ["Expected `width` to come before `-webkit-transition`"] := by decide +kernel

end Rule.DeclarationOrder
end SheetLint
