import Mathlib.Data.List.DropRight
import SheetLint.Proofs.PathCharacters
import SheetLint.Proofs.PathOrder
import SheetLint.Proofs.TrimmedTexts

/-!
# The path below a root

A path is its segments with slashes between them, and its components can be read off any way of
cutting it (`components_joinSegments`, `components_snoc`). `Below` says what the path below a root is:
the components that the root does not have, in the text of the path itself, up to the last name.
`below?` finds it exactly for the paths that start with the components of the root.
-/

namespace SheetLint.Path
set_option autoImplicit false

section Segments

variable {segments : List (List Char)} {path : List Char}

theorem joinSegments_eq (segments : List (List Char)) : joinSegments segments = ['/'].intercalate segments := by
  fun_induction joinSegments segments with
  | case1 => rfl
  | case2 s => rw [List.intercalate_singleton]
  | case3 s rest more ih =>
    obtain ⟨t, rest, rfl⟩ := List.exists_cons_of_ne_nil more
    rw [ih, List.intercalate_cons_cons, List.append_assoc, List.singleton_append]

theorem joinSegments_pieces (path : List Char) : joinSegments (Text.pieces '/' path) = path := by
  rw [joinSegments_eq, (Text.cuts_pieces '/' path).joined]

theorem pieces_joinSegments (some : segments ≠ []) (free : ∀ s ∈ segments, '/' ∉ s) :
    Text.pieces '/' (joinSegments segments) = segments :=
  Text.pieces_of_cuts ⟨some, free, (joinSegments_eq segments).symm⟩

theorem joinSegments_append {before after : List (List Char)} (some : before ≠ []) (more : after ≠ []) :
    joinSegments (before ++ after) = joinSegments before ++ '/' :: joinSegments after := by
  fun_induction joinSegments before with
  | case1 => exact absurd rfl some
  | case2 s =>
    obtain ⟨t, after, rfl⟩ := List.exists_cons_of_ne_nil more
    rfl
  | case3 s rest goes_on ih =>
    obtain ⟨t, rest, rfl⟩ := List.exists_cons_of_ne_nil goes_on
    have later := ih (List.cons_ne_nil t rest)
    calc joinSegments (s :: t :: rest ++ after)
        = s ++ '/' :: joinSegments (t :: rest ++ after) := rfl
      _ = s ++ '/' :: joinSegments (t :: rest) ++ '/' :: joinSegments after := by
        rw [later, List.append_assoc, List.cons_append]

/-- Segments in a row are joined to a part of the text. -/
theorem joinSegments_infix {part : List (List Char)} (inside : part <:+: segments) :
    joinSegments part <:+: joinSegments segments := by
  obtain ⟨before, after, rfl⟩ := inside
  cases part with
  | nil => exact List.nil_infix
  | cons s rest =>
    have first : joinSegments (s :: rest) <:+: joinSegments (before ++ (s :: rest)) := by
      cases before with
      | nil => exact List.infix_rfl
      | cons t more =>
        rw [joinSegments_append (List.cons_ne_nil t more) (List.cons_ne_nil s rest)]
        exact ((List.suffix_cons _ _).trans (List.suffix_append _ _)).isInfix
    cases after with
    | nil => rwa [List.append_nil]
    | cons t more =>
      rw [joinSegments_append (by simp) (List.cons_ne_nil t more)]
      exact first.trans (List.prefix_append _ _).isInfix

theorem idleB_eq_false_iff {s : List Char} : idleB s = false ↔ s ≠ [] ∧ s ≠ ['.'] := by
  unfold idleB component?
  split
  · next idle => simpa using fun differs => idle.resolve_left differs
  · next leads =>
    have some : (if s = ['.', '.'] then Option.some Component.parent else .some (.name s)).isNone = false := by
      split <;> rfl
    rw [some]
    simpa using leads

section Split

variable {s : List Char} {rest : List (List Char)}

theorem split_of_root (cut : Text.pieces '/' path = [] :: rest) (more : rest ≠ []) : split path = (.root, rest) := by
  obtain ⟨t, rest, rfl⟩ := List.exists_cons_of_ne_nil more
  rw [split, cut]

theorem split_of_here (cut : Text.pieces '/' path = ['.'] :: rest) : split path = (.here, rest) := by
  rw [split, cut]
  rfl

theorem split_of_body (cut : Text.pieces '/' path = s :: rest) (starts : idleB s = false) :
    split path = (.body, s :: rest) := by
  obtain ⟨some, other⟩ := idleB_eq_false_iff.1 starts
  rw [split, cut]
  split
  · next same => exact absurd (List.cons.inj same).1 some
  · next same => exact absurd (List.cons.inj same).1 other
  · rfl

theorem components_of_split {lead : Lead} (cut : split path = (lead, rest)) :
    components path = lead.components ++ rest.filterMap component? := by
  rw [components, cut]

end Split

/-- Segments that do not start idly are the components of the path that they make. -/
theorem components_joinSegments (free : ∀ s ∈ segments, '/' ∉ s) (starts : ∀ s ∈ segments.head?, idleB s = false) :
    components (joinSegments segments) = segments.filterMap component? := by
  cases segments with
  | nil => rfl
  | cons s rest =>
    exact components_of_split (split_of_body (pieces_joinSegments (List.cons_ne_nil s rest) free) (starts s rfl))

/-- The components of segments that are followed by others. -/
def leadingComponents : List (List Char) → List Component
  | [] => []
  | s :: rest =>
    (if s = [] then [.root] else if s = ['.'] then [.here] else (component? s).toList) ++ rest.filterMap component?

/-- The components of a path whose last segment counts. -/
theorem components_snoc {before : List (List Char)} {s : List Char} (cut : Text.pieces '/' path = before ++ [s])
    (ends : idleB s = false) : components path = leadingComponents before ++ (component? s).toList := by
  have last : [s].filterMap component? = (component? s).toList := by
    cases given : component? s <;> simp [given]
  cases before with
  | nil => exact (components_of_split (split_of_body cut ends)).trans last
  | cons t rest =>
    rw [List.cons_append] at cut
    have more : rest ++ [s] ≠ [] := by simp
    have both : (rest ++ [s]).filterMap component? = rest.filterMap component? ++ (component? s).toList := by
      rw [List.filterMap_append, last]
    by_cases root : t = []
    · subst root
      rw [components_of_split (split_of_root cut more), both]
      rfl
    · by_cases here : t = ['.']
      · subst here
        rw [components_of_split (split_of_here cut), both]
        rfl
      · have starts := idleB_eq_false_iff.2 ⟨root, here⟩
        rw [components_of_split (split_of_body cut starts), leadingComponents, if_neg root, if_neg here,
          List.append_assoc, ← both]
        cases given : component? t <;> simp [given, Lead.components]

theorem exists_component_of_idleB {s : List Char} (counts : idleB s = false) : ∃ c, component? s = some c := by
  cases given : component? s with
  | none => rw [idleB, given] at counts; cases counts
  | some c => exact ⟨c, rfl⟩

theorem fileName?_of_snoc {before : List (List Char)} {s : List Char} (cut : Text.pieces '/' path = before ++ [s])
    (named : component? s = some (.name s)) : fileName? path = some s := by
  have ends : idleB s = false := by rw [idleB, named]; rfl
  rw [fileName?, components_snoc cut ends, named, Option.toList, List.getLast?_concat]

theorem eq_of_fileName?_snoc {before : List (List Char)} {s name : List Char}
    (cut : Text.pieces '/' path = before ++ [s]) (ends : idleB s = false) (named : fileName? path = some name) :
    name = s := by
  obtain ⟨c, given⟩ := exists_component_of_idleB ends
  rw [fileName?, components_snoc cut ends, given, Option.toList, List.getLast?_concat] at named
  have text := segment_of_component? given
  cases c with
  | name t => exact (Option.some.inj named).symm.trans text
  | root => cases named
  | here => cases named
  | parent => cases named

end Segments

section Below

variable {root path below : List Char}

/-- The path below a root: its components come after those of the root, it is a part of the path's own text, and
nothing follows the name it ends in. -/
structure Below (root path below : List Char) : Prop where
  components : components path = components root ++ components below
  text : below <:+: path
  ends : ∀ name, fileName? below = some name → ∃ before, Text.pieces '/' below = before ++ [name]

section DropIdleEnd

variable {segments : List (List Char)}

theorem prefix_of_dropIdleEnd (segments : List (List Char)) : dropIdleEnd segments <+: segments :=
  List.rdropWhile_prefix idleB segments

theorem filterMap_idle (idle : ∀ s ∈ segments, idleB s = true) : segments.filterMap component? = [] := by
  rw [List.filterMap_eq_nil_iff]
  intro s mem
  exact Option.isNone_iff_eq_none.1 (idle s mem)

theorem filterMap_dropIdleEnd (segments : List (List Char)) :
    (dropIdleEnd segments).filterMap component? = segments.filterMap component? := by
  have cut : dropIdleEnd segments ++ segments.rtakeWhile idleB = segments := List.rdropWhile_append_rtakeWhile
  have idle : (segments.rtakeWhile idleB).filterMap component? = [] :=
    filterMap_idle fun s mem => List.mem_rtakeWhile_imp mem
  nth_rewrite 2 [← cut]
  rw [List.filterMap_append, idle, List.append_nil]

theorem filterMap_dropWhile (segments : List (List Char)) :
    (segments.dropWhile idleB).filterMap component? = segments.filterMap component? := by
  have idle : (segments.takeWhile idleB).filterMap component? = [] :=
    filterMap_idle fun s mem => List.mem_takeWhile_imp mem
  nth_rewrite 2 [← List.takeWhile_append_dropWhile (p := idleB) (l := segments)]
  rw [List.filterMap_append, idle, List.nil_append]

theorem ends_of_dropIdleEnd (lead : List (List Char)) (cut : Text.pieces '/' path = lead ++ dropIdleEnd segments)
    (left : dropIdleEnd segments ≠ []) {name : List Char} (named : fileName? path = some name) :
    ∃ before, Text.pieces '/' path = before ++ [name] := by
  have counts := Bool.eq_false_iff.2 (List.rdropWhile_last_not idleB segments left)
  have snoc : Text.pieces '/' path =
      (lead ++ (dropIdleEnd segments).dropLast) ++ [(dropIdleEnd segments).getLast left] := by
    rw [List.append_assoc, List.dropLast_append_getLast, cut]
  have last := eq_of_fileName?_snoc snoc counts named
  rw [last]
  exact ⟨_, snoc⟩

end DropIdleEnd

/-- How a path can start. -/
theorem split_cases (path : List Char) :
    (∃ rest, rest ≠ [] ∧ Text.pieces '/' path = [] :: rest ∧ split path = (.root, rest)) ∨
    (∃ rest, Text.pieces '/' path = ['.'] :: rest ∧ split path = (.here, rest)) ∨
    (∃ s rest, idleB s = false ∧ Text.pieces '/' path = s :: rest ∧ split path = (.body, s :: rest)) ∨
    path = [] := by
  obtain ⟨s, rest, cut⟩ := List.exists_cons_of_ne_nil (Text.pieces_ne_nil '/' path)
  cases counts : idleB s with
  | false => exact Or.inr (Or.inr (Or.inl ⟨s, rest, counts, cut, split_of_body cut counts⟩))
  | true =>
    have idle : s = [] ∨ s = ['.'] := by
      by_contra other
      rw [idleB_eq_false_iff.2 (not_or.1 other)] at counts
      cases counts
    rcases idle with rfl | rfl
    · by_cases more : rest = []
      · rw [more] at cut
        have empty := joinSegments_pieces path
        rw [cut] at empty
        exact Or.inr (Or.inr (Or.inr empty.symm))
      · exact Or.inl ⟨rest, more, cut, split_of_root cut more⟩
    · exact Or.inr (Or.inl ⟨rest, cut, split_of_here cut⟩)

theorem eq_nil_of_components (none : components path = []) : path = [] := by
  rcases split_cases path with ⟨rest, -, -, start⟩ | ⟨rest, -, start⟩ | ⟨s, rest, counts, -, start⟩ | empty
  · rw [components_of_split start] at none
    cases none
  · rw [components_of_split start] at none
    cases none
  · obtain ⟨c, given⟩ := exists_component_of_idleB counts
    rw [components_of_split start, List.filterMap_cons_some given] at none
    cases none
  · exact empty

theorem split_suffix (path : List Char) : (split path).2 <:+ Text.pieces '/' path := by
  unfold split
  split
  · next cut => exact cut ▸ List.suffix_cons _ _
  · next cut => exact cut ▸ List.suffix_cons _ _
  · exact List.suffix_rfl

section Kept

variable {segments : List (List Char)} (free : ∀ s ∈ segments, '/' ∉ s)
include free

theorem free_dropIdleEnd : ∀ s ∈ dropIdleEnd segments, '/' ∉ s :=
  fun s mem => free s ((prefix_of_dropIdleEnd segments).subset mem)

/-- The path of segments that do not start idly, less the idle ones at its end. -/
theorem components_kept (starts : ∀ s ∈ segments.head?, idleB s = false) :
    components (joinSegments (dropIdleEnd segments)) = segments.filterMap component? := by
  rw [← filterMap_dropIdleEnd]
  refine components_joinSegments (free_dropIdleEnd free) fun s mem => starts s ?_
  obtain ⟨more, split⟩ := prefix_of_dropIdleEnd segments
  rw [← split, List.head?_append, Option.mem_def.1 mem]
  rfl

theorem ends_kept {name : List Char} (named : fileName? (joinSegments (dropIdleEnd segments)) = some name) :
    ∃ before, Text.pieces '/' (joinSegments (dropIdleEnd segments)) = before ++ [name] := by
  by_cases left : dropIdleEnd segments = []
  · rw [left] at named
    cases named
  · have cut := pieces_joinSegments left (free_dropIdleEnd free)
    exact ends_of_dropIdleEnd [] cut left named

end Kept

section Whole

variable (empty : components root = []) {rest : List (List Char)}
include empty

/-- A path that starts at the root or with `.`, and has a name after that. -/
theorem below_lead {start : List Char} {lead : Lead}
    (splits : ∀ p tail, tail ≠ [] → Text.pieces '/' p = start :: tail → split p = (lead, tail))
    (cut : Text.pieces '/' path = start :: rest) (left : dropIdleEnd rest ≠ []) :
    Below root path (joinSegments (start :: dropIdleEnd rest)) := by
  have kept := prefix_of_dropIdleEnd rest
  have free : ∀ s ∈ start :: dropIdleEnd rest, '/' ∉ s := by
    intro s mem
    have among : s ∈ Text.pieces '/' path := by
      rw [cut]
      exact List.cons_subset_cons start kept.subset mem
    exact Text.not_mem_of_mem_pieces among
  have pieces := pieces_joinSegments (List.cons_ne_nil _ _) free
  refine ⟨?_, ?_, fun name named => ends_of_dropIdleEnd [start] pieces left named⟩
  · have some : rest ≠ [] := fun none => left (by rw [none]; rfl)
    rw [empty, components_of_split (splits _ _ some cut), components_of_split (splits _ _ left pieces),
      filterMap_dropIdleEnd, List.nil_append]
  · rw [← joinSegments_pieces path, cut]
    exact joinSegments_infix ((List.prefix_cons_inj start).2 kept).isInfix

/-- Where the root has no components, all of a path is below it. -/
theorem below_withoutIdleEnd (path : List Char) : Below root path (withoutIdleEnd path) := by
  have whole := joinSegments_pieces path
  rcases split_cases path with ⟨rest, more, cut, start⟩ | ⟨rest, cut, start⟩ | ⟨s, rest, counts, cut, start⟩ | rfl
  · have text : withoutIdleEnd path = '/' :: joinSegments (dropIdleEnd rest) := by rw [withoutIdleEnd, start]
    -- A slash alone is two empty pieces, not the segment before it: that case is apart.
    by_cases left : dropIdleEnd rest = []
    · rw [text, left]
      refine ⟨?_, ?_, nofun⟩
      · rw [empty, components_of_split start, ← filterMap_dropIdleEnd, left]
        rfl
      · obtain ⟨t, rest, rfl⟩ := List.exists_cons_of_ne_nil more
        rw [cut] at whole
        exact ⟨[], joinSegments (t :: rest), whole⟩
    · have joined : '/' :: joinSegments (dropIdleEnd rest) = joinSegments ([] :: dropIdleEnd rest) :=
        (joinSegments_append (List.cons_ne_nil [] []) left).symm
      rw [text, joined]
      exact below_lead empty (fun p tail some pieces => split_of_root pieces some) cut left
  · have text : withoutIdleEnd path = joinSegments (['.'] :: dropIdleEnd rest) := by rw [withoutIdleEnd, start]
    rw [text]
    by_cases left : dropIdleEnd rest = []
    · rw [left]
      refine ⟨?_, ?_, nofun⟩
      · rw [empty, components_of_split start, ← filterMap_dropIdleEnd, left]
        rfl
      · rw [← whole, cut]
        exact joinSegments_infix (List.prefix_append [['.']] rest).isInfix
    · exact below_lead empty (fun p tail some pieces => split_of_here pieces) cut left
  · have text : withoutIdleEnd path = joinSegments (dropIdleEnd (s :: rest)) := by rw [withoutIdleEnd, start]
    have free : ∀ t ∈ s :: rest, '/' ∉ t := by
      rw [← cut]
      exact fun t mem => Text.not_mem_of_mem_pieces mem
    rw [text]
    refine ⟨?_, ?_, fun name named => ends_kept free named⟩
    · rw [empty, components_of_split start, components_kept free (by simpa using counts)]
      rfl
    · rw [← whole, cut]
      exact joinSegments_infix (prefix_of_dropIdleEnd _).isInfix
  · exact ⟨by rw [empty]; rfl, List.nil_infix, nofun⟩

end Whole

section After

variable {cs : List Component} {segments rest : List (List Char)}

/-- What is skipped gives the components asked for. -/
theorem exists_skipped_of_after? (after : after? cs segments = some rest) :
    ∃ skipped, segments = skipped ++ rest ∧ skipped.filterMap component? = cs := by
  fun_induction after? cs segments with
  | case1 segments =>
    cases after
    exact ⟨[], rfl, rfl⟩
  | case2 => cases after
  | case3 c cs t more none ih =>
    obtain ⟨skipped, split, given⟩ := ih after
    exact ⟨t :: skipped, by rw [split]; rfl, by rw [List.filterMap_cons_none none, given]⟩
  | case4 cs t more c same ih =>
    obtain ⟨skipped, split, given⟩ := ih after
    exact ⟨t :: skipped, by rw [split]; rfl, by rw [List.filterMap_cons_some same, given]⟩
  | case5 => cases after

theorem exists_after? (starts : cs <+: segments.filterMap component?) : ∃ rest, after? cs segments = some rest := by
  fun_induction after? cs segments with
  | case1 segments => exact ⟨segments, rfl⟩
  | case2 c cs => exact absurd (List.prefix_nil.1 starts) (List.cons_ne_nil c cs)
  | case3 c cs t more none ih =>
    rw [List.filterMap_cons_none none] at starts
    exact ih starts
  | case4 cs t more c same ih =>
    rw [List.filterMap_cons_some same] at starts
    exact ih ((List.prefix_cons_inj c).1 starts)
  | case5 c cs t more c' given differs =>
    rw [List.filterMap_cons_some given, List.cons_prefix_cons] at starts
    exact absurd starts.1.symm differs

end After

/-- The text that `below?` takes of a path for a root with components. -/
theorem below?_eq {lead : Lead} {segments : List (List Char)} (some : components root ≠ [])
    (start : split path = (lead, segments)) :
    below? root path = if lead.components <+: components root then
      (after? ((components root).drop lead.components.length) segments).map fun rest =>
        joinSegments (dropIdleEnd (rest.dropWhile idleB))
    else none := by
  unfold below?
  split
  · next none => exact absurd none some
  · simp only [start, List.isPrefixOf_iff_prefix]

/-- What starts with components of a path that has a lead starts with the lead. -/
theorem starts_with_lead {lead : Lead} {cs ds : List Component} (some : cs ≠ []) (starts : cs <+: lead.components ++ ds) :
    lead.components <+: cs ∧ cs.drop lead.components.length <+: ds := by
  obtain ⟨c, cs, rfl⟩ := List.exists_cons_of_ne_nil some
  have one (l : Component) (starts : c :: cs <+: [l] ++ ds) : [l] <+: c :: cs ∧ (c :: cs).drop 1 <+: ds := by
    obtain ⟨rfl, later⟩ := List.cons_prefix_cons.1 starts
    exact ⟨⟨cs, rfl⟩, later⟩
  cases lead with
  | root => exact one _ starts
  | here => exact one _ starts
  | body => exact ⟨ List.nil_prefix, starts⟩

/-- **The path below a root** is found for every path that starts with the components of the root. -/
theorem exists_below? (under : components root <+: components path) :
    ∃ below, below? root path = some below ∧ Below root path below := by
  by_cases empty : components root = []
  · refine ⟨withoutIdleEnd path, ?_, below_withoutIdleEnd empty path⟩
    unfold below?
    rw [empty]
  · obtain ⟨lead, segments, start⟩ : ∃ lead segments, split path = (lead, segments) := ⟨_, _, rfl⟩
    rw [components_of_split start] at under
    obtain ⟨leads, starts⟩ := starts_with_lead empty under
    obtain ⟨rest, after⟩ := exists_after? starts
    obtain ⟨skipped, cut, given⟩ := exists_skipped_of_after? after
    -- Idle segments right after the root are part of neither, so that what is below never starts with a slash.
    have inside : rest.dropWhile idleB <:+ Text.pieces '/' path := by
      have later : segments <:+ Text.pieces '/' path := by simpa only [start] using split_suffix path
      exact (List.dropWhile_suffix idleB).trans ((cut ▸ List.suffix_append skipped rest).trans later)
    have free : ∀ s ∈ rest.dropWhile idleB, '/' ∉ s := fun s mem => Text.not_mem_of_mem_pieces (inside.subset mem)
    have starts : ∀ s ∈ (rest.dropWhile idleB).head?, idleB s = false := by
      intro s mem
      have first := List.head?_dropWhile_not idleB rest
      rwa [Option.mem_def.1 mem] at first
    refine ⟨joinSegments (dropIdleEnd (rest.dropWhile idleB)), ?_, ?_, ?_, fun name named => ends_kept free named⟩
    · rw [below?_eq empty start, if_pos leads, after, Option.map_some]
    · rw [components_of_split start, components_kept free starts, filterMap_dropWhile, cut, List.filterMap_append, given,
        ← List.append_assoc, List.prefix_iff_eq_append.1 leads]
    · rw [← joinSegments_pieces path]
      exact joinSegments_infix ((prefix_of_dropIdleEnd _).isInfix.trans inside.isInfix)

end Below
end SheetLint.Path
