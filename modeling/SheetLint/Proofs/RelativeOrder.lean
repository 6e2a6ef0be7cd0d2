import SheetLint.Proofs.CustomOrder

/-!
# Only the relative order of the names in use matters

Two policies that rank the same properties of a tree, and order them alike, find the same in it,
though the ranks they give may all differ: what the scan compares, and which property it names, goes
by the order alone (`remark?_of_alike`). For lists of names it is enough that they have the same of
the canonical names in use and have them in the same order of first places. Names that are not in
use and names that are repeated can be put into a list without changing a report.
-/

namespace SheetLint
set_option autoImplicit false

namespace Order

/-- The policies rank the same of some properties and order them alike. -/
structure Policy.Alike (used : String → Prop) (policy policy' : Policy) : Prop where
  ranked : ∀ p, used p → (policy.rank? p).isSome = (policy'.rank? p).isSome
  ordered : ∀ p q, used p → used q → ∀ r t r' t', policy.rank? p = some r → policy.rank? q = some t →
    policy'.rank? p = some r' → policy'.rank? q = some t' → r.ltB t = r'.ltB t'

theorem Policy.Alike.symm {used : String → Prop} {policy policy' : Policy} (alike : Alike used policy policy') :
    Alike used policy' policy where
  ranked p inUse := (alike.ranked p inUse).symm
  ordered p q inUse inUse' r t r' t' at_p at_q at_p' at_q' :=
    (alike.ordered p q inUse inUse' r' t' r t at_p' at_q' at_p at_q).symm

/-- The lists have the same of some names, and have them in the same order of first places. -/
structure OrderedAlike (used l l' : List String) : Prop where
  listed : ∀ a ∈ used, (a ∈ l ↔ a ∈ l')
  ordered : ∀ a ∈ used, ∀ b ∈ used, (FirstBefore l a b ↔ FirstBefore l' a b)

instance (l : List String) (a b : String) : Decidable (FirstBefore l a b) :=
  decidable_of_iff (a ∈ l ∧ b ∈ l ∧ l.idxOf a < l.idxOf b) ⟨fun h => ⟨h.1, h.2.1, h.2.2⟩, fun h => ⟨h.left, h.right, h.places⟩⟩

instance (used l l' : List String) : Decidable (OrderedAlike used l l') :=
  decidable_of_iff ((∀ a ∈ used, (a ∈ l ↔ a ∈ l')) ∧ ∀ a ∈ used, ∀ b ∈ used, (FirstBefore l a b ↔ FirstBefore l' a b))
    ⟨fun h => ⟨h.1, h.2⟩, fun h => ⟨h.listed, h.ordered⟩⟩

/-- The second list is the first with more names put in, at any places, each one not in use or in the list before that
place already. -/
inductive Padded (used l : List String) : List String → Prop where
  | same : Padded used l l
  | unused {xs ys : List String} {n : String} (padded : Padded used l (xs ++ ys)) (unused : n ∉ used) :
    Padded used l (xs ++ n :: ys)
  | repeated {xs ys : List String} {n : String} (padded : Padded used l (xs ++ ys)) (there : n ∈ xs) :
    Padded used l (xs ++ n :: ys)

namespace OrderedAlike

variable {used l l' l'' : List String}

theorem refl (used l : List String) : OrderedAlike used l l := ⟨fun _ _ => Iff.rfl, fun _ _ _ _ => Iff.rfl⟩

theorem trans (h : OrderedAlike used l l') (h' : OrderedAlike used l' l'') : OrderedAlike used l l'' where
  listed a mem := (h.listed a mem).trans (h'.listed a mem)
  ordered a mem b mem' := (h.ordered a mem b mem').trans (h'.ordered a mem b mem')

theorem idxOf_append_lt_iff {xs ys : List String} {a : String} : (xs ++ ys).idxOf a < xs.length ↔ a ∈ xs := by
  by_cases front : a ∈ xs
  · rw [List.idxOf_append, if_pos front]
    exact List.idxOf_lt_length_iff
  · rw [List.idxOf_append, if_neg front]
    exact ⟨fun less => absurd less (by omega), fun mem => absurd mem front⟩

/-- One more name moves up the places behind it. -/
theorem idxOf_insert {xs : List String} {n a : String} (ys : List String) (other : a ∉ xs → a ≠ n) :
    (xs ++ n :: ys).idxOf a =
      if (xs ++ ys).idxOf a < xs.length then (xs ++ ys).idxOf a else (xs ++ ys).idxOf a + 1 := by
  by_cases front : a ∈ xs
  · rw [if_pos (idxOf_append_lt_iff.2 front), List.idxOf_append, if_pos front, List.idxOf_append, if_pos front]
  · rw [if_neg (idxOf_append_lt_iff.not.2 front), List.idxOf_append, if_neg front, List.idxOf_append, if_neg front,
      List.idxOf_cons_ne ys (Ne.symm (other front))]
    omega

/-- One more name changes nothing for those that come before it or are not it. -/
theorem insert {xs ys : List String} {n : String} (other : ∀ a ∈ used, a ∉ xs → a ≠ n) :
    OrderedAlike used (xs ++ ys) (xs ++ n :: ys) := by
  have listed (a : String) (mem : a ∈ used) : a ∈ xs ++ ys ↔ a ∈ xs ++ n :: ys := by
    by_cases front : a ∈ xs
    · simp [front]
    · simp [front, other a mem front]
  refine ⟨listed, fun a mem b mem' => ?_⟩
  have places : (xs ++ ys).idxOf a < (xs ++ ys).idxOf b ↔ (xs ++ n :: ys).idxOf a < (xs ++ n :: ys).idxOf b := by
    rw [idxOf_insert ys (other a mem), idxOf_insert ys (other b mem')]
    split <;> split <;> omega
  constructor
  · rintro ⟨left, right, less⟩
    exact ⟨(listed a mem).1 left, (listed b mem').1 right, places.1 less⟩
  · rintro ⟨left, right, less⟩
    exact ⟨(listed a mem).2 left, (listed b mem').2 right, places.2 less⟩

/-- Lists that order the canonical names alike are alike as policies. -/
theorem alike (h : OrderedAlike used l l') : Policy.Alike (fun p => canonical p ∈ used) (.ofNames l) (.ofNames l') where
  ranked p inUse := by
    rw [Bool.eq_iff_iff, Option.isSome_iff_exists, Option.isSome_iff_exists]
    simp only [Policy.rank?_ofNames_eq_some_iff, exists_and_left, exists_eq, and_true]
    exact h.listed _ inUse
  ordered p q inUse inUse' r t r' t' at_p at_q at_p' at_q' := by
    rw [Bool.eq_iff_iff, Policy.ltB_ofNames_iff at_p at_q, Policy.ltB_ofNames_iff at_p' at_q']
    exact h.ordered _ inUse _ inUse'

end OrderedAlike

theorem Padded.orderedAlike {used l l' : List String} (padded : Padded used l l') : OrderedAlike used l l' := by
  induction padded with
  | same => exact .refl used l
  | unused _ unused ih =>
    refine ih.trans (.insert fun a mem _ => ?_)
    rintro rfl
    exact unused mem
  | repeated _ there ih =>
    refine ih.trans (.insert fun a _ new => ?_)
    rintro rfl
    exact new there

end Order

namespace Rule.DeclarationOrder

/-- The canonical names of the declarations that stand in the blocks of a tree. -/
def namesInUse (tree : Node) : List String :=
  (tree.descendants.filter (·.isOf "block")).flatMap fun block => (namesIn block).map Order.canonical

theorem mem_namesIn {block : Node} {p : String} :
    p ∈ namesIn block ↔ ∃ n ∈ block.children, n.kind = "declaration" ∧ property? n = some p := by
  simp only [namesIn, declarations, Node.childrenOf, List.mem_map, List.mem_filterMap, List.mem_filter,
    Option.map_eq_some_iff, Node.isOf, beq_iff_eq]
  constructor
  · rintro ⟨-, ⟨n, ⟨mem, decl⟩, q, named, rfl⟩, rfl⟩
    exact ⟨n, mem, decl, named⟩
  · rintro ⟨n, mem, decl, named⟩
    exact ⟨(n, p), ⟨n, ⟨mem, decl⟩, p, named, rfl⟩, rfl⟩

section Alike

variable {used : String → Prop} {policy policy' : Order.Policy} (alike : Order.Policy.Alike used policy policy')
include alike

theorem Ranks.of_alike {n : Node} {rank : Order.Rank} {p : String} (ranks : Ranks policy n rank p) (inUse : used p) :
    ∃ rank', Ranks policy' n rank' p := by
  have some := alike.ranked p inUse
  rw [ranks.ranks, Option.isSome_some] at some
  obtain ⟨rank', ranks'⟩ := Option.isSome_iff_exists.1 some.symm
  exact ⟨rank', ranks.declaration, ranks.named, ranks'⟩

/-- The declaration that is the last of the highest for one policy is so for the other. -/
theorem IsHighest.of_alike {before : List Node} {top : Order.Rank} {q : String}
    (inUse : ∀ e ∈ before, ∀ p, e.kind = "declaration" → property? e = some p → used p)
    (isHighest : IsHighest policy before top q) {top' : Order.Rank} (ranks' : policy'.rank? q = some top') :
    IsHighest policy' before top' q := by
  obtain ⟨earlier, d, later, rfl, at_top, up, down⟩ := isHighest
  have compare {e : Node} (mem : e ∈ earlier ++ d :: later) {rank' : Order.Rank} {p : String}
      (at_e : Ranks policy' e rank' p) :
      ∃ rank, Ranks policy e rank p ∧ top.ltB rank = top'.ltB rank' ∧ rank.ltB top = rank'.ltB top' := by
    have used_p := inUse e mem p at_e.declaration at_e.named
    have used_q := inUse d (by simp) q at_top.declaration at_top.named
    obtain ⟨rank, ranks⟩ := at_e.of_alike alike.symm used_p
    exact ⟨rank, ranks,
      alike.ordered q p used_q used_p _ _ _ _ at_top.ranks ranks.ranks ranks' at_e.ranks,
      alike.ordered p q used_p used_q _ _ _ _ ranks.ranks at_top.ranks at_e.ranks ranks'⟩
  refine ⟨earlier, d, later, rfl, ⟨at_top.declaration, at_top.named, ranks'⟩, ?_, ?_⟩
  · intro e mem rank' p at_e
    obtain ⟨rank, ranks, below, -⟩ := compare (List.mem_append_left _ mem) at_e
    rw [← below]
    exact up e mem rank p ranks
  · intro e mem rank' p at_e
    obtain ⟨rank, ranks, -, above⟩ := compare (List.mem_append_right _ (.tail _ mem)) at_e
    rw [← above]
    exact down e mem rank p ranks

theorem remark?_of_alike {s : Site} {text : String}
    (inUse : ∀ e ∈ s.node :: s.before, ∀ p, e.kind = "declaration" → property? e = some p → used p)
    (said : remark? policy s = some text) : remark? policy' s = some text := by
  obtain ⟨here, before⟩ := List.forall_mem_cons.1 inUse
  obtain ⟨rank, p, top, q, ranks, isHighest, low, rfl⟩ := remark?_eq_some_iff.1 said
  obtain ⟨d, mem, at_top⟩ := isHighest.exists_mem
  have used_p := here p ranks.declaration ranks.named
  have used_q := before d mem q at_top.declaration at_top.named
  obtain ⟨rank', ranks'⟩ := ranks.of_alike alike used_p
  obtain ⟨top', at_top'⟩ := at_top.of_alike alike used_q
  refine remark?_eq_some_iff.2 ⟨rank', p, top', q, ranks', isHighest.of_alike alike before at_top'.ranks, ?_, rfl⟩
  rw [← alike.ordered p q used_p used_q _ _ _ _ ranks.ranks at_top.ranks ranks'.ranks at_top'.ranks]
  exact low

theorem remarks_of_alike {block : Node} (inUse : ∀ p ∈ namesIn block, used p) :
    remarks policy block = remarks policy' block := by
  refine List.filterMap_congr fun s mem => congrArg (Option.map (s, ·)) ?_
  obtain ⟨after, split⟩ := Site.mem_below.1 mem
  have named : ∀ e ∈ s.node :: s.before, ∀ p, e.kind = "declaration" → property? e = some p → used p := by
    intro e near p decl property
    refine inUse p (mem_namesIn.2 ⟨e, ?_, decl, property⟩)
    rw [split]
    rcases List.mem_cons.1 near with rfl | near
    · simp
    · simp [near]
  ext text
  exact ⟨remark?_of_alike alike named, remark?_of_alike alike.symm named⟩

/-- Policies that order the properties in use alike find the same in a tree. -/
theorem detect_of_alike {tree : Node} (inUse : ∀ block ∈ tree.descendants, block.kind = "block" → ∀ p ∈ namesIn block, used p)
    (severity : Severity) (context : FileContext) (ledger : Ledger Detection) :
    ((rule policy).withSeverity severity).detect context tree ledger =
      ((rule policy').withSeverity severity).detect context tree ledger := by
  have blocks : ∀ block ∈ tree.descendants.filter (·.isOf "block"),
      ((remarks policy block).map fun o => Detection.ofNode name severity o.1.node o.2) =
        (remarks policy' block).map fun o => .ofNode name severity o.1.node o.2 := by
    intro block mem
    obtain ⟨inside, isBlock⟩ := List.mem_filter.1 mem
    rw [remarks_of_alike alike (inUse block inside (eq_of_beq isBlock))]
  rw [detect_eq_addAll, detect_eq_addAll, List.flatMap_congr blocks]

end Alike

/-- Lists that order the names in use alike find the same in a tree. -/
theorem detect_of_orderedAlike {tree : Node} {l l' : List String} (alike : Order.OrderedAlike (namesInUse tree) l l')
    (severity : Severity) (context : FileContext) (ledger : Ledger Detection) :
    ((rule (.ofNames l)).withSeverity severity).detect context tree ledger =
      ((rule (.ofNames l')).withSeverity severity).detect context tree ledger := by
  refine detect_of_alike alike.alike (fun block inside isBlock p written => ?_) severity context ledger
  exact List.mem_flatMap.2 ⟨block, List.mem_filter.2 ⟨inside, beq_iff_eq.2 isBlock⟩, List.mem_map_of_mem written⟩

end Rule.DeclarationOrder

namespace Linter

/-- The rules are called alike and do the same on a tree. -/
def SameOn (tree : Node) (r r' : Rule) : Prop :=
  r.name = r'.name ∧ ∀ context, r.detect context tree .empty = r'.detect context tree .empty

theorem messagesOfAll_of_sameOn {config : Config} {context : FileContext} {suppressions : Suppression} {tree : Node}
    {rules rules' : List Rule} (same : List.Forall₂ (SameOn tree) rules rules') :
    messagesOfAll config context suppressions tree rules = messagesOfAll config context suppressions tree rules' := by
  induction same with
  | nil => rfl
  | cons first _ ih => rw [messagesOfAll, messagesOfAll, ih, messagesOf, messagesOf, first.1, first.2]

/-- A run depends on the names of its rules and on what they do on the tree. -/
theorem lintTree_of_sameOn {root path : String} {config : Config} {tree : Node} {rules rules' : List Rule}
    (same : List.Forall₂ (SameOn tree) rules rules') :
    (⟨root, rules, config⟩ : Linter).lintTree path tree = (⟨root, rules', config⟩ : Linter).lintTree path tree := by
  have enabled : List.Forall₂ (SameOn tree) (⟨root, rules, config⟩ : Linter).enabledRules
      (⟨root, rules', config⟩ : Linter).enabledRules := by
    induction same with
    | nil => exact .nil
    | @cons r r' rest rest' first later ih =>
      unfold enabledRules at ih ⊢
      rw [List.filter_cons, List.filter_cons, first.1]
      split
      · exact .cons first ih
      · exact ih
  simp only [lintTree, messagesOfAll_of_sameOn enabled]

end Linter

namespace Rule.DeclarationOrder

/-- **Only the relative order of the names in use matters.** Let two lists have the same of the canonical names in use
in a tree, and let the first place of one be before that of another in both lists or in none. The rule leaves the
same with either list, whatever the ledger held before. So putting names that are not in use into a list, or a name
once more after its first place, changes no report, whatever other rules take part. -/
theorem relative_order_decides (tree : Node) (severity : Severity) :
    (∀ l l' : List String, Order.OrderedAlike (namesInUse tree) l l' →
      ∀ (context : FileContext) (ledger : Ledger Detection),
        ((rule (.ofNames l)).withSeverity severity).detect context tree ledger =
          ((rule (.ofNames l')).withSeverity severity).detect context tree ledger) ∧
    ∀ l l' : List String, Order.Padded (namesInUse tree) l l' →
      ∀ (root path : String) (config : Config) (before after : List Rule),
        (⟨root, before ++ (rule (.ofNames l)).withSeverity severity :: after, config⟩ : Linter).lintTree path tree =
          (⟨root, before ++ (rule (.ofNames l')).withSeverity severity :: after, config⟩ : Linter).lintTree path tree := by
  refine ⟨fun l l' alike context ledger => detect_of_orderedAlike alike severity context ledger, ?_⟩
  intro l l' padded root path config before after
  have same (r : Rule) : Linter.SameOn tree r r := ⟨rfl, fun _ => rfl⟩
  have replaced : Linter.SameOn tree ((rule (.ofNames l)).withSeverity severity) ((rule (.ofNames l')).withSeverity severity) :=
    ⟨rfl, fun context => detect_of_orderedAlike padded.orderedAlike severity context .empty⟩
  apply Linter.lintTree_of_sameOn
  exact List.rel_append (List.forall₂_same.2 fun r _ => same r) (.cons replaced (List.forall₂_same.2 fun r _ => same r))

theorem namesInUse_sample : namesInUse (sampleBlock ["-webkit-transition", "width"]) = ["transition", "width"] := by
  rw [namesInUse, Node.descendants_eq_preorder]
  decide +kernel

/-- The lists share no place for a name in use, but have both in one order. -/
theorem relative_order_decides_sample :
    Order.OrderedAlike (namesInUse (sampleBlock ["-webkit-transition", "width"])) ["width", "transition", "color"]
      ["margin", "width", "padding", "transition"] ∧
    ((rule (.ofNames ["width", "transition", "color"])).withSeverity .error).detect default
        (sampleBlock ["-webkit-transition", "width"]) .empty =
      ((rule (.ofNames ["margin", "width", "padding", "transition"])).withSeverity .error).detect default
        (sampleBlock ["-webkit-transition", "width"]) .empty ∧
    (⟨"/p", [HexDigits.rule, (rule (.ofNames ["width", "transition"])).withSeverity .error], {}⟩ : Linter).lintTree
        "/p/a.scss.json" (sampleBlock ["-webkit-transition", "width"]) =
      (⟨"/p", [HexDigits.rule, (rule (.ofNames ["margin", "width", "transition", "width"])).withSeverity .error], {}⟩ :
        Linter).lintTree "/p/a.scss.json" (sampleBlock ["-webkit-transition", "width"]) := by
  obtain ⟨detects, reports⟩ := relative_order_decides (sampleBlock ["-webkit-transition", "width"]) .error
  rw [namesInUse_sample] at detects reports ⊢
  have alike : Order.OrderedAlike ["transition", "width"] ["width", "transition", "color"]
      ["margin", "width", "padding", "transition"] := by decide
  have once : Order.Padded ["transition", "width"] ["width", "transition"] ["margin", "width", "transition"] :=
    @Order.Padded.unused _ _ [] _ _ .same (by decide)
  have twice : Order.Padded ["transition", "width"] ["width", "transition"] ["margin", "width", "transition", "width"] :=
    @Order.Padded.repeated _ _ ["margin", "width", "transition"] [] _ once (by decide)
  exact ⟨alike, detects _ _ alike default .empty, reports _ _ twice "/p" "/p/a.scss.json" {} [HexDigits.rule] []⟩

end Rule.DeclarationOrder
end SheetLint
