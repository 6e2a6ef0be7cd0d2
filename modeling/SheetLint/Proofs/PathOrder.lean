import SheetLint.Path
import SheetLint.Proofs.StableSort

/-!
# The order of paths

Paths are ordered by their components, and paths that are the same place are those
with the same components. Two paths of one place lead the same way: they start at
the same directory and take the same steps (`same_way`).
-/

namespace SheetLint.Path
set_option autoImplicit false

namespace Component

/-- The text of a name; other components have none. -/
def text : Component → List Char
  | root => []
  | here => []
  | parent => []
  | name t => t

theorem ext {a b : Component} (rank : a.rank = b.rank) (text : a.text = b.text) : a = b := by
  cases a <;> cases b <;> simp_all [Component.rank, Component.text]

theorem compare_eq (a b : Component) :
    a.compare b = compareLex (compareOn rank) (fun a b => compareOfLessAndEq a.text b.text) a b := by
  cases a <;> cases b <;> rfl

theorem texts_transCmp : Std.TransCmp fun a b : List Char => compareOfLessAndEq a b :=
  @Std.TransOrd.compareOfLessAndEq_of_antisymm_of_trans_of_total_of_not_le _ _ List.instLE _ _ _ List.le_antisymm
    List.le_trans List.le_total List.not_le

instance : Std.TransCmp compare := by
  have texts : Std.TransCmp fun a b : Component => compareOfLessAndEq a.text b.text :=
    have := texts_transCmp
    { eq_swap := this.eq_swap, isLE_trans := this.isLE_trans }
  rw [show compare = compareLex (compareOn rank) fun a b => compareOfLessAndEq a.text b.text from
    funext fun a => funext fun b => compare_eq a b]
  infer_instance

instance : Std.LawfulEqCmp compare where
  eq_of_compare := by
    intro a b same
    rw [compare_eq, compareLex, Ordering.then_eq_eq] at same
    have texts : a.text = b.text :=
      (@compareOfLessAndEq_eq_eq _ _ List.instLE _ _ _ List.le_refl List.not_le _ _).1 same.2
    exact ext (Nat.compare_eq_eq.1 same.1) texts

end Component

theorem compareComponents_eq : compareComponents = List.compareLex Component.compare := by
  funext as bs
  induction as generalizing bs with
  | nil => cases bs <;> rfl
  | cons a as ih =>
    cases bs with
    | nil => rfl
    | cons b bs => rw [compareComponents, List.compareLex_cons_cons, ih]

instance : Std.TransCmp compareComponents := by
  rw [compareComponents_eq]
  infer_instance

instance : Std.LawfulEqCmp compareComponents := by
  rw [compareComponents_eq]
  infer_instance

/-- Whether components come before others or are the same. -/
def leComponentsB (as bs : List Component) : Bool := compareComponents as bs != .gt

theorem leComponentsB_eq (as bs : List Component) : leComponentsB as bs = (compareComponents as bs).isLE := by
  cases compared : compareComponents as bs <;> simp [leComponentsB, compared]

theorem keyOrder : KeyOrder leComponentsB where
  trans := by
    intro as bs cs
    simp only [leComponentsB_eq]
    exact Std.TransCmp.isLE_trans
  total := by
    intro as bs
    rw [leComponentsB_eq, leComponentsB_eq, @Std.OrientedCmp.eq_swap _ compareComponents _ bs as]
    cases compareComponents as bs <;> rfl
  antisymm := by
    intro as bs below above
    rw [leComponentsB_eq] at below above
    exact Std.LawfulEqCmp.eq_of_compare (Std.OrientedCmp.isLE_antisymm below above)

theorem compareComponents_eq_lt_iff {as bs : List Component} :
    compareComponents as bs = .lt ↔ leComponentsB as bs = true ∧ as ≠ bs := by
  have same : compareComponents as bs = .eq ↔ as = bs := Std.LawfulEqCmp.compare_eq_iff_eq
  rw [leComponentsB_eq, Ne, ← same]
  cases compareComponents as bs <;> decide

theorem sameB_iff {p q : List Char} : sameB p q = true ↔ components p = components q := beq_iff_eq

section Steps

/-- The segments of a path that give a component. -/
def steps (path : List Char) : List (List Char) :=
  (Text.pieces '/' path).filter fun s => !idleB s

/-- The segment that gives a component. -/
def Component.segment : Component → List Char
  | root => []
  | here => ['.']
  | parent => ['.', '.']
  | name t => t

theorem segment_of_component? {segment : List Char} {c : Component} (given : component? segment = some c) :
    c.segment = segment := by
  unfold component? at given
  split at given
  · cases given
  · split at given <;> cases given
    · exact Eq.symm ‹_›
    · rfl

theorem filter_idle_eq (segments : List (List Char)) :
    (segments.filter fun s => !idleB s) = (segments.filterMap component?).map Component.segment := by
  induction segments with
  | nil => rfl
  | cons s rest ih =>
    cases given : component? s with
    | none =>
      have idle : idleB s = true := by rw [idleB, given]; rfl
      rw [List.filterMap_cons_none given, ← ih, List.filter_cons, idle]
      rfl
    | some c =>
      have leads : idleB s = false := by rw [idleB, given]; rfl
      rw [List.filterMap_cons_some given, List.map_cons, ← ih, List.filter_cons, leads, segment_of_component? given]
      rfl

/-- What follows the start of a path has steps and idle segments only. -/
theorem steps_eq (path : List Char) :
    steps path = ((split path).2.filterMap component?).map Component.segment := by
  rw [← filter_idle_eq, steps, split]
  split <;> simp_all [idleB, component?]

theorem absoluteB_iff {path : List Char} : absoluteB path = true ↔ (split path).1 = .root := by
  cases path with
  | nil => simp [absoluteB, split, Text.pieces]
  | cons c rest =>
    obtain ⟨piece, more, cut⟩ := List.exists_cons_of_ne_nil (Text.pieces_ne_nil '/' rest)
    by_cases slash : c = '/'
    · simp [absoluteB, split, Text.pieces, slash, cut]
    · simp only [absoluteB, split, Text.pieces, slash, cut]
      split <;> simp_all

theorem ne_root_and_ne_here {segments : List (List Char)} {c : Component}
    (given : c ∈ segments.filterMap component?) : c ≠ .root ∧ c ≠ .here := by
  obtain ⟨segment, -, is⟩ := List.mem_filterMap.1 given
  unfold component? at is
  split at is
  · cases is
  · split at is <;> cases is <;> exact ⟨nofun, nofun⟩

/-- Leads are told apart by their components, as no other segment gives the same. -/
theorem lead_eq_of_components {l m : Lead} {ls ms : List (List Char)}
    (same : l.components ++ ls.filterMap component? = m.components ++ ms.filterMap component?) :
    l = m ∧ ls.filterMap component? = ms.filterMap component? := by
  have starts {c : Component} {cs : List Component} {ss : List (List Char)} (eq : ss.filterMap component? = c :: cs) :
      c ≠ .root ∧ c ≠ .here := ne_root_and_ne_here (eq ▸ List.mem_cons_self)
  cases l with
  | root =>
    cases m with
    | root => exact ⟨rfl, (List.cons.inj same).2⟩
    | here => exact nomatch (List.cons.inj same).1
    | body => exact absurd rfl (starts same.symm).1
  | here =>
    cases m with
    | root => exact nomatch (List.cons.inj same).1
    | here => exact ⟨rfl, (List.cons.inj same).2⟩
    | body => exact absurd rfl (starts same.symm).2
  | body =>
    cases m with
    | root => exact absurd rfl (starts same).1
    | here => exact absurd rfl (starts same).2
    | body => exact ⟨rfl, same⟩

/-- **One place, one way**: paths with the same components start at the same directory and take the same
steps. -/
theorem same_way {p q : List Char} (same : sameB p q = true) : absoluteB p = absoluteB q ∧ steps p = steps q := by
  obtain ⟨lead, rest⟩ := lead_eq_of_components (sameB_iff.1 same)
  refine ⟨?_, by rw [steps_eq, steps_eq, rest]⟩
  rw [Bool.eq_iff_iff, absoluteB_iff, absoluteB_iff, lead]

end Steps

end SheetLint.Path
