import Mathlib.Data.List.Induction
import SheetLint.Proofs.Sites

/-!
# What violates a built-in rule

For each check, `Violates` says in terms of the tree which sites are offences and
`Says` what the report on them reads. `findingAt_eq_offence_iff` ties both to what
the rules do. The order of declarations is the one check with a state: its running
maximum is the last of the highest-ranked declarations before the site
(`highest_eq_some_iff`).
-/

namespace SheetLint
set_option autoImplicit false

namespace Order.Rank

theorem ltB_index_iff {a b : Nat} : (index a).ltB (index b) = true ↔ a < b := by
  simp [ltB, compare, Nat.compare_eq_lt]

theorem ltB_name_iff {a b : String} : (name a).ltB (name b) = true ↔ a < b := by
  simp [ltB, compare, compareOfLessAndEq_eq_lt]

theorem ltB_irrefl (a : Rank) : a.ltB a = false := by
  rw [← Bool.not_eq_true]
  cases a with
  | index a => exact ltB_index_iff.not.2 (Nat.lt_irrefl a)
  | name a => exact ltB_name_iff.not.2 (String.lt_irrefl a)

theorem ltB_asymm {a b : Rank} (ab : a.ltB b = true) : b.ltB a = false := by
  rw [← Bool.not_eq_true]
  cases a with
  | index a =>
    cases b with
    | index b => exact ltB_index_iff.not.2 (Nat.lt_asymm (ltB_index_iff.1 ab))
    | name b => exact Bool.false_ne_true
  | name a =>
    cases b with
    | index b => exact absurd ab Bool.false_ne_true
    | name b => exact ltB_name_iff.not.2 (String.lt_asymm (ltB_name_iff.1 ab))

/-- Where `a` ranks before `c`, every rank is after `a` or before `c`. -/
theorem ltB_or_ltB {a c : Rank} (ac : a.ltB c = true) (b : Rank) : a.ltB b = true ∨ b.ltB c = true := by
  cases a with
  | index a =>
    cases b with
    | name b =>
      cases c with
      | index c => exact Or.inl rfl
      | name c => exact Or.inl rfl
    | index b =>
      cases c with
      | name c => exact Or.inr rfl
      | index c =>
        rw [ltB_index_iff, ltB_index_iff]
        have := ltB_index_iff.1 ac
        omega
  | name a =>
    cases c with
    | index c => exact absurd ac Bool.false_ne_true
    | name c =>
      cases b with
      | index b => exact Or.inr rfl
      | name b =>
        rw [ltB_name_iff, ltB_name_iff]
        by_cases ab : a < b
        · exact Or.inl ab
        · refine Or.inr (String.not_le.1 fun cb => ?_)
          exact String.not_le.2 (ltB_name_iff.1 ac) (String.le_trans cb (String.not_lt.1 ab))

end Order.Rank

namespace Rule.DeclarationOrder

/-- `top` is the highest rank among `before`, and `property` the last that has it. -/
def IsHighest (policy : Order.Policy) (before : List Node) (top : Order.Rank) (property : String) : Prop :=
  ∃ earlier d later, before = earlier ++ d :: later ∧ Ranks policy d top property ∧
    (∀ e ∈ earlier, ∀ rank p, Ranks policy e rank p → top.ltB rank = false) ∧
    (∀ e ∈ later, ∀ rank p, Ranks policy e rank p → rank.ltB top = true)

variable {policy : Order.Policy} {before : List Node} {top rank : Order.Rank} {property p : String}

theorem Ranks.unique {n : Node} (h : Ranks policy n rank p) (h' : Ranks policy n top property) :
    rank = top ∧ p = property := by
  obtain rfl : p = property := Option.some.inj (h.named.symm.trans h'.named)
  exact ⟨Option.some.inj (h.ranks.symm.trans h'.ranks), rfl⟩

/-- No declaration ranks above the highest. -/
theorem IsHighest.not_ltB (h : IsHighest policy before top property) {e : Node} (mem : e ∈ before)
    (ranks : Ranks policy e rank p) : top.ltB rank = false := by
  obtain ⟨earlier, d, later, rfl, at_top, up, down⟩ := h
  rcases List.mem_append.1 mem with mem | mem
  · exact up e mem rank p ranks
  · rcases List.mem_cons.1 mem with rfl | mem
    · rw [(ranks.unique at_top).1]
      exact Order.Rank.ltB_irrefl top
    · exact Order.Rank.ltB_asymm (down e mem rank p ranks)

theorem IsHighest.exists_mem (h : IsHighest policy before top property) : ∃ d ∈ before, Ranks policy d top property := by
  obtain ⟨earlier, d, later, rfl, at_top, -⟩ := h
  exact ⟨d, by simp, at_top⟩

theorem isHighest_snoc {n : Node} :
    IsHighest policy (before ++ [n]) top property ↔
      (Ranks policy n top property ∧ ∀ e ∈ before, ∀ rank p, Ranks policy e rank p → top.ltB rank = false) ∨
      (IsHighest policy before top property ∧ ∀ rank p, Ranks policy n rank p → rank.ltB top = true) := by
  constructor
  · rintro ⟨earlier, d, later, split, at_top, up, down⟩
    -- the last child is the one that has the rank, or comes after it
    rcases List.eq_nil_or_concat later with rfl | ⟨later, last, rfl⟩
    · obtain ⟨rfl, one⟩ := List.append_inj' split rfl
      exact Or.inl ⟨List.singleton_inj.1 one ▸ at_top, up⟩
    · rw [List.concat_eq_append, ← List.cons_append, ← List.append_assoc] at split
      obtain ⟨rfl, one⟩ := List.append_inj' split rfl
      refine Or.inr ⟨⟨earlier, d, later, rfl, at_top, up, ?_⟩, ?_⟩
      · intro e mem
        exact down e (by simp [mem])
      · rw [List.singleton_inj.1 one]
        exact down last (by simp)
  · rintro (⟨at_top, up⟩ | ⟨⟨earlier, d, later, rfl, at_top, up, down⟩, last⟩)
    · exact ⟨before, n, [], rfl, at_top, up, fun e mem => absurd mem List.not_mem_nil⟩
    · refine ⟨earlier, d, later ++ [n], by simp, at_top, up, ?_⟩
      intro e mem
      rcases List.mem_append.1 mem with mem | mem
      · exact down e mem
      · rw [List.mem_singleton.1 mem]
        exact last

theorem not_isHighest_nil : ¬ IsHighest policy [] top property := by
  rintro ⟨earlier, d, later, split, -⟩
  simp at split

theorem highest_eq_none_iff :
    highest policy before = none ↔ ∀ e ∈ before, ∀ rank p, ¬ Ranks policy e rank p := by
  induction before using List.reverseRecOn with
  | nil => simp [highest]
  | append_singleton before n ih =>
    simp only [highest_snoc, List.mem_append, List.mem_singleton, or_imp, forall_and, forall_eq]
    rw [← ih, ← ranked?_eq_none_iff]
    cases here : ranked? policy n with
    | none => simp [raise_unranked here]
    | some r =>
      cases highest policy before with
      | none => simp [raise_first here]
      | some t =>
        by_cases low : r.1.ltB t.1 = true
        · simp [raise_lower here low]
        · simp [raise_higher here low]

/-- The running maximum of the scan. -/
theorem highest_eq_some_iff :
    highest policy before = some (top, property) ↔ IsHighest policy before top property := by
  induction before using List.reverseRecOn generalizing top property with
  | nil => simp [highest, not_isHighest_nil]
  | append_singleton before n ih =>
    rw [highest_snoc, isHighest_snoc]
    cases here : ranked? policy n with
    | none =>
      have unranked := ranked?_eq_none_iff.1 here
      simp [raise_unranked here, ih, unranked]
    | some r =>
      have ranks := ranked?_eq_some_iff.1 here
      cases so_far : highest policy before with
      | none =>
        have none := highest_eq_none_iff.1 so_far
        have no_top : ¬ IsHighest policy before top property := by
          rw [← ih, so_far]
          simp
        simp only [raise_first here, no_top, false_and, or_false, Option.some.injEq]
        constructor
        · rintro rfl
          exact ⟨ranks, fun e mem rank p ranks => absurd ranks (none e mem rank p)⟩
        · rintro ⟨at_top, -⟩
          obtain ⟨rfl, rfl⟩ := ranks.unique at_top
          rfl
      | some t =>
        have at_t := ih.1 so_far
        have same : IsHighest policy before top property ↔ t = (top, property) := by
          rw [← ih, so_far, Option.some.injEq]
        by_cases low : r.1.ltB t.1 = true
        · simp only [raise_lower here low, Option.some.injEq]
          constructor
          · rintro rfl
            refine Or.inr ⟨at_t, fun rank p ranks' => ?_⟩
            rw [← (ranks.unique ranks').1]
            exact low
          · rintro (⟨at_top, up⟩ | ⟨h, -⟩)
            · obtain ⟨d, mem, at_d⟩ := at_t.exists_mem
              have above := up d mem t.1 t.2 at_d
              rw [← (ranks.unique at_top).1, low] at above
              exact absurd above.symm Bool.false_ne_true
            · exact same.1 h
        · simp only [raise_higher here low, Option.some.injEq]
          constructor
          · rintro rfl
            refine Or.inl ⟨ranks, fun e mem rank p ranks' => ?_⟩
            rw [← Bool.not_eq_true]
            intro above
            rcases Order.Rank.ltB_or_ltB above t.1 with h | h
            · exact low h
            · exact absurd ((at_t.not_ltB mem ranks').symm.trans h) Bool.false_ne_true
          · rintro (⟨at_top, -⟩ | ⟨h, last⟩)
            · obtain ⟨rfl, rfl⟩ := ranks.unique at_top
              rfl
            · obtain rfl := same.1 h
              exact absurd (last r.1 r.2 ranks) low

/-- Some declaration ranks above `rank` exactly when the highest does. -/
theorem exists_above_iff :
    (∃ d ∈ before, ∃ higher q, Ranks policy d higher q ∧ rank.ltB higher = true) ↔
      ∃ top q, IsHighest policy before top q ∧ rank.ltB top = true := by
  constructor
  · rintro ⟨d, mem, higher, q, ranks, above⟩
    cases so_far : highest policy before with
    | none => exact absurd ranks (highest_eq_none_iff.1 so_far d mem higher q)
    | some t =>
      have at_t := highest_eq_some_iff.1 so_far
      refine ⟨t.1, t.2, at_t, ?_⟩
      rcases Order.Rank.ltB_or_ltB above t.1 with h | h
      · exact h
      · exact absurd ((at_t.not_ltB mem ranks).symm.trans h) Bool.false_ne_true
  · rintro ⟨top, q, isHighest, above⟩
    obtain ⟨d, mem, ranks⟩ := isHighest.exists_mem
    exact ⟨d, mem, top, q, ranks, above⟩

theorem findingAt_eq_offence_iff {s : Site} {n : Node} {text : String} :
    findingAt policy s = some (.offence n text) ↔
      s.node = n ∧ ∃ rank p top q, Ranks policy s.node rank p ∧ IsHighest policy s.before top q ∧
        rank.ltB top = true ∧ s!"Expected `{p}` to come before `{q}`" = text := by
  constructor
  · intro found
    unfold findingAt at found
    split at found
    · rename_i r top ranks so_far
      split at found
      · rename_i low
        obtain ⟨rfl, rfl⟩ := Finding.offence.inj (Option.some.inj found)
        exact ⟨rfl, r.1, r.2, top.1, top.2, ranked?_eq_some_iff.1 ranks, highest_eq_some_iff.1 so_far, low, rfl⟩
      · exact absurd found.symm (Option.some_ne_none _)
    · exact absurd found.symm (Option.some_ne_none _)
  · rintro ⟨rfl, rank, p, top, q, ranks, so_far, low, rfl⟩
    simp [findingAt, ranked?_eq_some_iff.2 ranks, highest_eq_some_iff.2 so_far, low]

end Rule.DeclarationOrder

namespace Text

/-- Three or six hexadecimal digits. -/
def HexColor (text : String) : Prop :=
  (text.length = 3 ∨ text.length = 6) ∧ ∀ c ∈ text.toList, c ∈ "0123456789abcdefABCDEF".toList

theorem isHexDigit_iff {c : Char} : isHexDigit c = true ↔ c ∈ "0123456789abcdefABCDEF".toList := by
  constructor
  · intro digit
    have small : c.toNat < 128 := by
      simp only [isHexDigit, Char.isDigit, Bool.or_eq_true, Bool.and_eq_true, decide_eq_true_eq, Char.le_def,
        UInt32.le_iff_toNat_le] at digit
      have bound : c.val.toNat < 128 := by
        rcases digit with (⟨-, h⟩ | ⟨-, h⟩) | ⟨-, h⟩
        · exact Nat.lt_of_le_of_lt h (by decide)
        · exact Nat.lt_of_le_of_lt h (by decide)
        · exact Nat.lt_of_le_of_lt h (by decide)
      exact bound
    have table : ∀ n < 128, isHexDigit (Char.ofNat n) = true →
        Char.ofNat n ∈ "0123456789abcdefABCDEF".toList := by decide +kernel
    rw [← Char.ofNat_toNat c] at digit ⊢
    exact table c.toNat small digit
  · intro listed
    have digits : "0123456789abcdefABCDEF".toList.all isHexDigit = true := by decide +kernel
    exact List.all_eq_true.1 digits c listed

theorem isHexColor_iff {text : String} : isHexColor text.toList = true ↔ HexColor text := by
  simp only [isHexColor, HexColor, Bool.and_eq_true, Bool.or_eq_true, beq_iff_eq, List.all_eq_true,
    isHexDigit_iff, String.length_toList]

end Text

namespace Rule

theorem HexDigits.checkColor_eq_offence_iff {color n : Node} {text : String} :
    checkColor color = some (.offence n text) ↔
      color = n ∧ ∃ hex, color.text? = some hex ∧ ¬ Text.HexColor hex ∧
        s!"Hexadecimal color `#{hex}` must be 3 or 6 hex digits" = text := by
  rw [checkColor]
  cases color.text? with
  | none => simp
  | some hex =>
    by_cases valid : Text.isHexColor hex.toList = true
    · simp [valid, Text.isHexColor_iff.1 valid]
    · have invalid := Text.isHexColor_iff.not.1 valid
      simp [valid, invalid]

theorem HexCase.checkColor_eq_offence_iff {style : Style} {color n : Node} {text : String} :
    checkColor style color = some (.offence n text) ↔
      color = n ∧ ∃ hex, color.text? = some hex ∧ (∃ c ∈ hex.toList, Text.isLetter c = true) ∧
        style.acceptsB hex.toList = false ∧ s!"Color `#{hex}` should be written in {style.name}" = text := by
  rw [checkColor]
  cases color.text? with
  | none => simp
  | some hex =>
    by_cases clean : cleanB style hex.toList = true
    · have fine : ¬ ((∃ c ∈ hex.toList, Text.isLetter c = true) ∧ style.acceptsB hex.toList = false) := by
        simpa [cleanB, or_iff_not_imp_left] using clean
      simp only [clean, if_true, Option.some.injEq]
      constructor
      · intro found
        exact absurd found.symm (Option.some_ne_none _)
      · rintro ⟨-, h, rfl, letter, reject, -⟩
        exact absurd ⟨letter, reject⟩ fine
    · have bad : (∃ c ∈ hex.toList, Text.isLetter c = true) ∧ style.acceptsB hex.toList = false := by
        simpa [cleanB] using clean
      simp [clean, bad]

theorem ZeroUnit.checkDimension_eq_offence_iff {dimension n : Node} {text : String} :
    checkDimension dimension = some (.offence n text) ↔
      dimension = n ∧ ∃ number unit, (dimension.first? "number").bind Node.text? = some number ∧
        (dimension.first? "ident").bind Node.text? = some unit ∧ Text.isZero number.toList = true ∧
        s!"No unit allowed for values of 0, found `{number}{unit}`" = text := by
  rw [checkDimension]
  cases (dimension.first? "number").bind Node.text? with
  | none => simp
  | some number =>
    cases (dimension.first? "ident").bind Node.text? with
    | none => simp
    | some unit =>
      by_cases zero : Text.isZero number.toList = true
      · simp [zero]
      · simp [zero]

namespace BlockSpacing

/-- The node is a ruleset with `space` right before it and something other than spaces before that. -/
structure Separated (s : Site) (space : Node) : Prop where
  ruleset : s.node.kind = "ruleset"
  isSpace : space.kind = "space"
  follows : ∃ earlier, s.before = earlier ++ [space] ∧ ∃ e ∈ earlier, e.kind ≠ "space"

theorem Separated.unique {s : Site} {space space' : Node} (h : Separated s space) (h' : Separated s space') :
    space = space' := by
  obtain ⟨earlier, split, -⟩ := h.follows
  obtain ⟨earlier', split', -⟩ := h'.follows
  exact List.singleton_inj.1 (List.append_inj' (split.symm.trans split') rfl).2

theorem findingAt_of_separated (wanted : Bool) {s : Site} {space : Node} (h : Separated s space) :
    findingAt wanted s = checkSpace wanted space s.node := by
  obtain ⟨ruleset, isSpace, earlier, split, e, mem, item⟩ := h
  have checked : (s.node.isOf "ruleset" && space.isOf "space" && !earlier.all (·.isOf "space")) = true := by
    simp only [Node.isOf, Bool.and_eq_true, beq_iff_eq, Bool.not_eq_true', List.all_eq_false]
    exact ⟨⟨ruleset, isSpace⟩, e, mem, item⟩
  simp only [findingAt, split, List.dropLast_concat, List.getLast?_concat, checkChild]
  exact if_pos checked

theorem findingAt_of_not_separated (wanted : Bool) {s : Site} (h : ∀ space, ¬ Separated s space) :
    findingAt wanted s = none := by
  obtain ⟨before, node⟩ := s
  rcases List.eq_nil_or_concat before with rfl | ⟨earlier, space, rfl⟩
  · rfl
  · simp only [findingAt, List.concat_eq_append, List.dropLast_concat, List.getLast?_concat, checkChild]
    refine if_neg fun checked => h space ?_
    simp only [Node.isOf, Bool.and_eq_true, beq_iff_eq, Bool.not_eq_true', List.all_eq_false] at checked
    obtain ⟨⟨ruleset, isSpace⟩, e, mem, item⟩ := checked
    exact ⟨ruleset, isSpace, earlier, List.concat_eq_append, e, mem, item⟩

theorem checkSpace_eq_offence_iff {wanted : Bool} {space ruleset n : Node} {text : String} :
    checkSpace wanted space ruleset = some (.offence n text) ↔
      ruleset = n ∧ ∃ white, space.text? = some white ∧ '\n' ∈ white.toList ∧
        Text.hasBlankLine white.toList ≠ wanted ∧ complaint wanted = text := by
  rw [checkSpace]
  cases space.text? with
  | none => simp
  | some white =>
    by_cases wrong : '\n' ∈ white.toList ∧ Text.hasBlankLine white.toList ≠ wanted
    · simp [Text.hasLineEnd, wrong]
    · have fine : ¬ (Text.hasLineEnd white.toList && Text.hasBlankLine white.toList != wanted) = true := by
        simpa [Text.hasLineEnd] using wrong
      simp only [if_neg fine]
      constructor
      · intro found
        exact absurd found.symm (Option.some_ne_none _)
      · rintro ⟨-, w, same, line, blank, -⟩
        obtain rfl := Option.some.inj same
        exact absurd ⟨line, blank⟩ wrong

theorem findingAt_eq_offence_iff {wanted : Bool} {s : Site} {n : Node} {text : String} :
    findingAt wanted s = some (.offence n text) ↔
      s.node = n ∧ ∃ space white, Separated s space ∧ space.text? = some white ∧ '\n' ∈ white.toList ∧
        Text.hasBlankLine white.toList ≠ wanted ∧ complaint wanted = text := by
  by_cases some : ∃ space, Separated s space
  · obtain ⟨space, separated⟩ := some
    rw [findingAt_of_separated wanted separated, checkSpace_eq_offence_iff]
    constructor
    · rintro ⟨same, white, rest⟩
      exact ⟨same, space, white, separated, rest⟩
    · rintro ⟨same, space', white, separated', rest⟩
      rw [← separated.unique separated'] at rest
      exact ⟨same, white, rest⟩
  · have none := not_exists.1 some
    rw [findingAt_of_not_separated wanted none]
    constructor
    · intro found
      exact absurd found.symm (Option.some_ne_none _)
    · rintro ⟨-, space, white, separated, -⟩
      exact absurd separated (none space)

end BlockSpacing

namespace Check

/-- The site is an offence. -/
def Violates : Check → Site → Prop
  | declarationOrder policy, s =>
    ∃ rank p, DeclarationOrder.Ranks policy s.node rank p ∧
      ∃ d ∈ s.before, ∃ higher q, DeclarationOrder.Ranks policy d higher q ∧ rank.ltB higher = true
  | hexDigits, s => s.node.kind = "color" ∧ ∃ hex, s.node.text? = some hex ∧ ¬ Text.HexColor hex
  | hexCase style, s =>
    s.node.kind = "color" ∧ ∃ hex, s.node.text? = some hex ∧
      (∃ c ∈ hex.toList, Text.isLetter c = true) ∧ style.acceptsB hex.toList = false
  | zeroUnit, s =>
    s.node.kind = "dimension" ∧ ∃ number unit, (s.node.first? "number").bind Node.text? = some number ∧
      (s.node.first? "ident").bind Node.text? = some unit ∧ Text.isZero number.toList = true
  | blockSpacing wanted, s =>
    ∃ space white, BlockSpacing.Separated s space ∧ space.text? = some white ∧ '\n' ∈ white.toList ∧
      Text.hasBlankLine white.toList ≠ wanted

/-- What is said about an offence at the site. -/
def Says : Check → Site → String → Prop
  | declarationOrder policy, s, text =>
    ∃ rank p top q, DeclarationOrder.Ranks policy s.node rank p ∧
      DeclarationOrder.IsHighest policy s.before top q ∧ s!"Expected `{p}` to come before `{q}`" = text
  | hexDigits, s, text =>
    ∃ hex, s.node.text? = some hex ∧ s!"Hexadecimal color `#{hex}` must be 3 or 6 hex digits" = text
  | hexCase style, s, text =>
    ∃ hex, s.node.text? = some hex ∧ s!"Color `#{hex}` should be written in {style.name}" = text
  | zeroUnit, s, text =>
    ∃ number unit, (s.node.first? "number").bind Node.text? = some number ∧
      (s.node.first? "ident").bind Node.text? = some unit ∧
      s!"No unit allowed for values of 0, found `{number}{unit}`" = text
  | blockSpacing wanted, _, text => BlockSpacing.complaint wanted = text

/-- A node that a check looks at by itself is of the kind it looks for. -/
theorem kind_of_alone {tree : Node} {kind : String} {s : Site}
    (visited : s ∈ (tree.preorder.filter (·.isOf kind)).map Site.alone) : s.node.kind = kind := by
  obtain ⟨n, kept, rfl⟩ := List.mem_map.1 visited
  exact eq_of_beq (List.mem_filter.1 kept).2

/-- **Offences are the violations.** At the sites it looks at, a check finds an offence exactly where
the site violates it, and says about it what it is to say. -/
theorem findingAt_eq_offence_iff {c : Check} {tree : Node} {s : Site} (visited : s ∈ c.visits tree)
    {n : Node} {text : String} :
    c.findingAt s = some (.offence n text) ↔ s.node = n ∧ c.Violates s ∧ c.Says s text := by
  cases c with
  | declarationOrder policy =>
    rw [findingAt, DeclarationOrder.findingAt_eq_offence_iff]
    constructor
    · rintro ⟨same, rank, p, top, q, ranks, highest, low, said⟩
      exact ⟨same, ⟨rank, p, ranks, DeclarationOrder.exists_above_iff.2 ⟨top, q, highest, low⟩⟩,
        rank, p, top, q, ranks, highest, said⟩
    · rintro ⟨same, ⟨rank, p, ranks, above⟩, rank', p', top, q, ranks', highest, said⟩
      obtain ⟨rfl, rfl⟩ := ranks.unique ranks'
      obtain ⟨top', q', highest', low⟩ := DeclarationOrder.exists_above_iff.1 above
      have one := (DeclarationOrder.highest_eq_some_iff.2 highest').symm.trans
        (DeclarationOrder.highest_eq_some_iff.2 highest)
      obtain ⟨rfl, rfl⟩ := Prod.mk.inj (Option.some.inj one)
      exact ⟨same, rank, p, top', q', ranks, highest, low, said⟩
  | hexDigits =>
    rw [findingAt, HexDigits.checkColor_eq_offence_iff]
    constructor
    · rintro ⟨same, hex, read, invalid, said⟩
      exact ⟨same, ⟨kind_of_alone visited, hex, read, invalid⟩, hex, read, said⟩
    · rintro ⟨same, ⟨-, hex, read, invalid⟩, hex', read', said⟩
      obtain rfl := Option.some.inj (read.symm.trans read')
      exact ⟨same, hex, read, invalid, said⟩
  | hexCase style =>
    rw [findingAt, HexCase.checkColor_eq_offence_iff]
    constructor
    · rintro ⟨same, hex, read, letter, reject, said⟩
      exact ⟨same, ⟨kind_of_alone visited, hex, read, letter, reject⟩, hex, read, said⟩
    · rintro ⟨same, ⟨-, hex, read, letter, reject⟩, hex', read', said⟩
      obtain rfl := Option.some.inj (read.symm.trans read')
      exact ⟨same, hex, read, letter, reject, said⟩
  | zeroUnit =>
    rw [findingAt, ZeroUnit.checkDimension_eq_offence_iff]
    constructor
    · rintro ⟨same, number, unit, read, has, zero, said⟩
      exact ⟨same, ⟨kind_of_alone visited, number, unit, read, has, zero⟩, number, unit, read, has, said⟩
    · rintro ⟨same, ⟨-, number, unit, read, has, zero⟩, number', unit', read', has', said⟩
      obtain rfl := Option.some.inj (read.symm.trans read')
      obtain rfl := Option.some.inj (has.symm.trans has')
      exact ⟨same, number, unit, read, has, zero, said⟩
  | blockSpacing wanted =>
    rw [findingAt, BlockSpacing.findingAt_eq_offence_iff]
    constructor
    · rintro ⟨same, space, white, separated, read, line, blank, said⟩
      exact ⟨same, ⟨space, white, separated, read, line, blank⟩, said⟩
    · rintro ⟨same, ⟨space, white, separated, read, line, blank⟩, said⟩
      exact ⟨same, space, white, separated, read, line, blank, said⟩

/-- There is something to say about every violation. -/
theorem Violates.exists_text {c : Check} {s : Site} (h : c.Violates s) : ∃ text, c.Says s text := by
  cases c with
  | declarationOrder policy =>
    obtain ⟨rank, p, ranks, above⟩ := h
    obtain ⟨top, q, highest, -⟩ := DeclarationOrder.exists_above_iff.1 above
    exact ⟨_, rank, p, top, q, ranks, highest, rfl⟩
  | hexDigits =>
    obtain ⟨-, hex, read, -⟩ := h
    exact ⟨_, hex, read, rfl⟩
  | hexCase style =>
    obtain ⟨-, hex, read, -⟩ := h
    exact ⟨_, hex, read, rfl⟩
  | zeroUnit =>
    obtain ⟨-, number, unit, read, has, -⟩ := h
    exact ⟨_, number, unit, read, has, rfl⟩
  | blockSpacing wanted => exact ⟨_, rfl⟩

end Check
end Rule
end SheetLint
