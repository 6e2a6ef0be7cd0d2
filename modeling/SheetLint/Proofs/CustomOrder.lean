import SheetLint.Proofs.RunningMaximum

/-!
# Orders given by a list

A list of names ranks a property by the first place of its canonical name, the name without a
vendor mark, in the list. A block is in order when no canonical name in it comes after one that the
list has later (`ascending_ofNames_iff`). For names that carry no mark this is the order of the names
as they are written. A name with a mark in the list is never looked up, so such names are ordered
by their canonical name or not at all.
-/

namespace SheetLint
set_option autoImplicit false

namespace Order

/-- The name under which a list has a property: the property without a vendor mark. -/
def canonical (property : String) : String := String.ofList (Text.commonName property.toList)

/-- Both names are in the list, and the first place of `a` is before that of `b`. -/
structure FirstBefore (l : List String) (a b : String) : Prop where
  left : a ∈ l
  right : b ∈ l
  places : l.idxOf a < l.idxOf b

theorem FirstBefore.sublist {l : List String} {a b : String} (h : FirstBefore l a b) : [a, b].Sublist l := by
  induction l with
  | nil => exact absurd h.left List.not_mem_nil
  | cons c rest ih =>
    by_cases first : c = a
    · subst first
      have later : b ≠ c := by
        rintro rfl
        exact absurd h.places (Nat.lt_irrefl _)
      exact (List.singleton_sublist.2 ((List.mem_cons.1 h.right).resolve_left later)).cons_cons c
    · have places := h.places
      rw [List.idxOf_cons_ne rest first] at places
      have second : c ≠ b := by
        rintro rfl
        rw [List.idxOf_cons_self] at places
        exact absurd places (Nat.not_lt_zero _)
      rw [List.idxOf_cons_ne rest second] at places
      refine (ih ⟨?_, ?_, Nat.lt_of_succ_lt_succ places⟩).cons c
      · exact (List.mem_cons.1 h.left).resolve_left (Ne.symm first)
      · exact (List.mem_cons.1 h.right).resolve_left (Ne.symm second)

theorem firstBefore_iff_sublist {l : List String} (once : l.Nodup) {a b : String} :
    FirstBefore l a b ↔ [a, b].Sublist l := by
  refine ⟨FirstBefore.sublist, fun sub => ⟨sub.subset (.head _), sub.subset (.tail _ (.head _)), ?_⟩⟩
  have ascending : l.Pairwise fun a b => l.idxOf a < l.idxOf b := by
    rw [List.pairwise_iff_getElem]
    intro i j hi hj less
    rwa [once.idxOf_getElem i hi, once.idxOf_getElem j hj]
  exact List.pairwise_iff_forall_sublist.1 ascending sub

namespace Policy

variable {l : List String} {property : String}

theorem rank?_ofNames : (ofNames l).rank? property = (l.idxOf? (canonical property)).map Rank.index := by
  show (Record.search? (l.map Entry.mk) "name" (canonical property)).map Rank.index = _
  rw [Record.search?, List.findIdx?_map]
  rfl

theorem rank?_ofNames_eq_some_iff {rank : Rank} :
    (ofNames l).rank? property = some rank ↔
      canonical property ∈ l ∧ rank = .index (l.idxOf (canonical property)) := by
  rw [rank?_ofNames, Option.map_eq_some_iff]
  simp only [List.idxOf?, List.findIdx?_eq_some_iff_findIdx_eq]
  constructor
  · rintro ⟨i, ⟨bound, rfl⟩, rfl⟩
    exact ⟨List.idxOf_lt_length_iff.1 bound, rfl⟩
  · rintro ⟨listed, rfl⟩
    exact ⟨_, ⟨List.idxOf_lt_length_iff.2 listed, rfl⟩, rfl⟩

/-- Of two properties that a list ranks, one is below the other exactly when its canonical name comes first. -/
theorem ltB_ofNames_iff {p q : String} {rank higher : Rank} (ranks : (ofNames l).rank? p = some rank)
    (ranks' : (ofNames l).rank? q = some higher) :
    rank.ltB higher = true ↔ FirstBefore l (canonical p) (canonical q) := by
  obtain ⟨listed, rfl⟩ := rank?_ofNames_eq_some_iff.1 ranks
  obtain ⟨listed', rfl⟩ := rank?_ofNames_eq_some_iff.1 ranks'
  rw [Rank.ltB_index_iff]
  exact ⟨fun less => ⟨listed, listed', less⟩, FirstBefore.places⟩

end Policy
end Order

namespace Rule.DeclarationOrder

/-- The properties of the declarations that stand directly in a block, as written. -/
def namesIn (block : Node) : List String := (declarations block).map Prod.snd

theorem ranksIn_eq (policy : Order.Policy) (block : Node) :
    ranksIn policy block = (namesIn block).filterMap policy.rank? := by
  rw [ranksIn, namesIn, declarations, Node.childrenOf, List.map_filterMap, List.filterMap_filterMap,
    List.filterMap_filter]
  refine List.filterMap_congr fun n _ => ?_
  by_cases decl : n.isOf "declaration" = true
  · cases named : property? n with
    | none => simp [ranked?, decl, named]
    | some p =>
      have rank : ((policy.rank? p).map (·, p)).map Prod.fst = policy.rank? p := by
        cases policy.rank? p <;> rfl
      simpa [ranked?, decl, named] using rank
  · simp [ranked?, decl]

theorem pair_sublist_map_iff {f : String → String} {names : List String} {a b : String} :
    [a, b].Sublist (names.map f) ↔ ∃ p q, [p, q].Sublist names ∧ f p = a ∧ f q = b := by
  rw [List.sublist_map_iff]
  constructor
  · rintro ⟨pair, sub, same⟩
    obtain ⟨p, rest, rfl, first, same⟩ := List.map_eq_cons_iff.1 same.symm
    obtain ⟨q, rest, rfl, second, same⟩ := List.map_eq_cons_iff.1 same
    rw [List.map_eq_nil_iff.1 same] at sub
    exact ⟨p, q, sub, first, second⟩
  · rintro ⟨p, q, sub, rfl, rfl⟩
    exact ⟨[p, q], sub, rfl⟩

/-- The ranks never go down exactly when no canonical name comes after one that the list has later. -/
theorem ascending_ofNames_iff {l : List String} (once : l.Nodup) {block : Node} :
    (ranksIn (.ofNames l) block).Pairwise (fun a b => b.ltB a = false) ↔
      ∀ a b, [a, b].Sublist l → ¬ [b, a].Sublist ((namesIn block).map Order.canonical) := by
  rw [ranksIn_eq, List.pairwise_filterMap, List.pairwise_iff_forall_sublist]
  simp only [← Order.firstBefore_iff_sublist once, pair_sublist_map_iff, ← Bool.not_eq_true]
  constructor
  · rintro ascending a b before ⟨q, p, sub, rfl, rfl⟩
    have ranks := Order.Policy.rank?_ofNames_eq_some_iff.2 ⟨before.left, rfl⟩
    have ranks' := Order.Policy.rank?_ofNames_eq_some_iff.2 ⟨before.right, rfl⟩
    exact ascending sub _ ranks' _ ranks ((Order.Policy.ltB_ofNames_iff ranks ranks').2 before)
  · intro clear q p sub higher ranks' rank ranks low
    exact clear _ _ ((Order.Policy.ltB_ofNames_iff ranks ranks').1 low) ⟨q, p, sub, rfl, rfl⟩

/-- What a scan of a block with a list of names leaves in an empty ledger. -/
def entriesUnder (l : List String) (severity : Severity) (block : Node) : List Detection :=
  (record name severity (checkBlock (.ofNames l) block) .empty).ledger.entries

/-- **A custom order goes by canonical names.** Let a list name no property twice. A block yields nothing exactly when
no canonical name in it is written after one that the list has later. So it yields nothing where its names, as
written, are a part of the list in the order of the list, provided that none of them has a vendor mark and is also
listed without it. It yields something where a name of the list is written after one that the list has later,
provided that both are without a vendor mark. -/
theorem custom_order_by_canonical_names {l : List String} (once : l.Nodup) (severity : Severity) (block : Node) :
    (entriesUnder l severity block = [] ↔
      ∀ a b, [a, b].Sublist l → ¬ [b, a].Sublist ((namesIn block).map Order.canonical)) ∧
    ((namesIn block).Sublist l → (∀ p ∈ namesIn block, Order.canonical p ≠ p → Order.canonical p ∉ l) →
      entriesUnder l severity block = []) ∧
    ∀ a b, [a, b].Sublist l → [b, a].Sublist (namesIn block) → Order.canonical a = a → Order.canonical b = b →
      entriesUnder l severity block ≠ [] := by
  have exact : entriesUnder l severity block = [] ↔
      ∀ a b, [a, b].Sublist l → ¬ [b, a].Sublist ((namesIn block).map Order.canonical) :=
    entries_checkBlock_eq_nil_iff.trans (ascending_ofNames_iff once)
  refine ⟨exact, ?_, ?_⟩
  · intro part unmarked
    rw [exact]
    intro a b listed written
    obtain ⟨q, p, sub, rfl, rfl⟩ := pair_sublist_map_iff.1 written
    -- both canonical names are in the list, so both names are canonical
    have same (r : String) (mem : r ∈ [q, p]) (listed : Order.canonical r ∈ l) : Order.canonical r = r :=
      Decidable.not_not.1 fun marked => unmarked r (sub.subset mem) marked listed
    rw [same p (.tail _ (.head _)) (listed.subset (.head _)), same q (.head _) (listed.subset (.tail _ (.head _)))] at listed
    have forth := (Order.firstBefore_iff_sublist once).2 listed
    have back := (Order.firstBefore_iff_sublist once).2 (sub.trans part)
    exact Nat.lt_asymm forth.places back.places
  · intro a b listed written plain plain' none
    refine exact.1 none a b listed ?_
    have canonical := written.map Order.canonical
    rwa [List.map_cons, List.map_singleton, plain, plain'] at canonical

/-- A list with a marked name that is not listed without its mark: the block that has all its names in order yields
nothing, and one that has two of them the other way round yields something. -/
theorem custom_order_by_canonical_names_sample :
    ["width", "-moz-outline", "color"].Nodup ∧
    entriesUnder ["width", "-moz-outline", "color"] .warning (sampleBlock ["width", "-moz-outline", "color"]) = [] ∧
    entriesUnder ["width", "-moz-outline", "color"] .warning (sampleBlock ["color", "-moz-outline", "width"]) ≠ [] := by
  have once : ["width", "-moz-outline", "color"].Nodup := by decide
  obtain ⟨-, accepts, -⟩ := custom_order_by_canonical_names once .warning (sampleBlock ["width", "-moz-outline", "color"])
  obtain ⟨-, -, rejects⟩ := custom_order_by_canonical_names once .warning (sampleBlock ["color", "-moz-outline", "width"])
  refine ⟨once, accepts (by decide +kernel) (by decide +kernel), ?_⟩
  exact rejects "width" "color" (by decide) (by decide +kernel) (by decide +kernel) (by decide +kernel)

/-- As they are written, names with a vendor mark are not ordered by the list: it rejects a block that has its names in
order, where one is listed without its mark as well, and accepts a block that has its names the other way round. -/
theorem custom_order_not_by_written_names :
    (["transition", "color", "-webkit-transition"].Nodup ∧
      (namesIn (sampleBlock ["color", "-webkit-transition"])).Sublist ["transition", "color", "-webkit-transition"] ∧
      entriesUnder ["transition", "color", "-webkit-transition"] .warning (sampleBlock ["color", "-webkit-transition"]) ≠ []) ∧
    ["-webkit-transition", "color"].Nodup ∧
      ["color", "-webkit-transition"].Sublist (namesIn (sampleBlock ["color", "-webkit-transition"])) ∧
      entriesUnder ["-webkit-transition", "color"] .warning (sampleBlock ["color", "-webkit-transition"]) = [] := by
  decide +kernel

end Rule.DeclarationOrder
end SheetLint
