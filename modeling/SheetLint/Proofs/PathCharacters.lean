import SheetLint.FileContext

/-!
# The characters of reported paths

A path is reported as a part of its own text, put together again from its segments. So a
character that is not in a path, and neither a slash nor a dot, is not in the path that is
reported (`not_mem_relativePath`).
-/

namespace SheetLint
set_option autoImplicit false

/-- Pieces of a text have no other characters than the text. -/
theorem Text.mem_of_mem_pieces {separator c : Char} {text piece : List Char} (mem : piece ∈ pieces separator text)
    (at_c : c ∈ piece) : c ∈ text := by
  induction text generalizing piece with
  | nil =>
    rw [pieces, List.mem_singleton] at mem
    rw [mem] at at_c
    exact absurd at_c List.not_mem_nil
  | cons d rest ih =>
    by_cases here : d = separator
    · rw [pieces, if_pos here] at mem
      rcases List.mem_cons.1 mem with rfl | mem
      · exact absurd at_c List.not_mem_nil
      · exact .tail _ (ih mem at_c)
    · obtain ⟨first, more, cut⟩ := List.exists_cons_of_ne_nil (pieces_ne_nil separator rest)
      simp only [pieces, if_neg here, cut] at mem
      rcases List.mem_cons.1 mem with rfl | mem
      · rcases List.mem_cons.1 at_c with rfl | at_c
        · exact .head _
        · exact .tail _ (ih (cut ▸ List.mem_cons_self) at_c)
      · exact .tail _ (ih (cut ▸ List.mem_cons_of_mem first mem) at_c)

namespace Path

variable {c : Char} {path : List Char}

theorem not_mem_joinSegments (slash : c ≠ '/') {segments : List (List Char)} (free : ∀ s ∈ segments, c ∉ s) :
    c ∉ joinSegments segments := by
  fun_induction joinSegments segments with
  | case1 => exact List.not_mem_nil
  | case2 s => exact free s (.head _)
  | case3 s rest _ ih =>
    obtain ⟨first, later⟩ := List.forall_mem_cons.1 free
    rw [List.mem_append, List.mem_cons]
    rintro (mem | same | mem)
    · exact first mem
    · exact slash same
    · exact ih later mem

theorem mem_pieces_of_split {s : List Char} (mem : s ∈ (split path).2) : s ∈ Text.pieces '/' path := by
  unfold split at mem
  split at mem
  · next cut => exact cut ▸ List.mem_cons_of_mem _ mem
  · next cut => exact cut ▸ List.mem_cons_of_mem _ mem
  · exact mem

theorem mem_of_dropIdleEnd {s : List Char} {segments : List (List Char)} (mem : s ∈ dropIdleEnd segments) :
    s ∈ segments := by
  rw [dropIdleEnd, List.mem_reverse] at mem
  exact List.mem_reverse.1 ((List.dropWhile_sublist idleB).subset mem)

theorem mem_of_after? {cs : List Component} {segments rest : List (List Char)} (after : after? cs segments = some rest)
    {s : List Char} (mem : s ∈ rest) : s ∈ segments := by
  fun_induction after? cs segments with
  | case1 segments =>
    cases after
    exact mem
  | case2 => cases after
  | case3 c cs t more none ih => exact .tail _ (ih after)
  | case4 cs t more c same ih => exact .tail _ (ih after)
  | case5 => cases after

theorem mem_of_splitExtension {name : List Char} (mem : c ∈ (splitExtension name).1) : c ∈ name := by
  unfold splitExtension at mem
  split at mem
  · next cut =>
    rw [List.mem_reverse] at mem
    refine List.mem_reverse.1 ((List.dropWhile_sublist (· != '.')).subset ?_)
    rw [cut]
    exact .tail _ mem
  · exact mem

section Free

variable (slash : c ≠ '/') (dot : c ≠ '.') (free : c ∉ path)
include slash free

/-- The segments of a path, as far as they are kept. -/
theorem not_mem_kept {segments : List (List Char)} (kept : ∀ s ∈ segments, s ∈ Text.pieces '/' path) :
    c ∉ joinSegments segments :=
  not_mem_joinSegments slash fun s mem at_c => free (Text.mem_of_mem_pieces (kept s mem) at_c)

include dot

theorem not_mem_withoutIdleEnd : c ∉ withoutIdleEnd path := by
  have kept (lead : Lead) (rest : List (List Char)) (cut : split path = (lead, rest)) :
      ∀ s ∈ dropIdleEnd rest, s ∈ Text.pieces '/' path := by
    intro s mem
    apply mem_pieces_of_split
    rw [cut]
    exact mem_of_dropIdleEnd mem
  unfold withoutIdleEnd
  split
  · next rest cut =>
    rw [List.mem_cons]
    rintro (same | mem)
    · exact slash same
    · exact not_mem_kept slash free (kept _ rest cut) mem
  · next rest cut =>
    refine not_mem_joinSegments slash (List.forall_mem_cons.2 ⟨by simpa using dot, fun s mem at_c => ?_⟩)
    exact free (Text.mem_of_mem_pieces (kept _ rest cut s mem) at_c)
  · next rest cut => exact not_mem_kept slash free (kept _ rest cut)

theorem not_mem_below? {base below : List Char} (isBelow : below? base path = some below) : c ∉ below := by
  unfold below? at isBelow
  split at isBelow
  · cases isBelow
    exact not_mem_withoutIdleEnd slash dot free
  · dsimp only at isBelow
    split at isBelow
    · obtain ⟨rest, after, rfl⟩ := Option.map_eq_some_iff.1 isBelow
      refine not_mem_kept slash free fun s mem => mem_pieces_of_split (mem_of_after? after ?_)
      exact (List.dropWhile_sublist idleB).subset (mem_of_dropIdleEnd mem)
    · cases isBelow

omit dot

theorem not_mem_toStem : c ∉ toStem path := by
  unfold toStem
  split
  · next name before cut =>
    split
    · exact free
    · have among : ∀ s ∈ name :: before, s ∈ Text.pieces '/' path := by
        intro s mem
        rw [← cut] at mem
        exact List.mem_reverse.1 ((List.dropWhile_sublist idleB).subset mem)
      refine not_mem_joinSegments slash fun s mem at_c => ?_
      rw [List.mem_reverse, List.mem_cons] at mem
      rcases mem with rfl | mem
      · exact free (Text.mem_of_mem_pieces (among name (.head _)) (mem_of_splitExtension at_c))
      · exact free (Text.mem_of_mem_pieces (among s (.tail _ mem)) at_c)
  · exact free

theorem not_mem_withoutExtension : c ∉ withoutExtension path := by
  refine not_mem_toStem slash fun mem => free ?_
  exact List.mem_of_mem_take mem

end Free
end Path

/-- A character that is not in a path is not in the path it is reported under. -/
theorem FileContext.not_mem_relativePath {c : Char} (slash : c ≠ '/') (dot : c ≠ '.') {path : String}
    (free : c ∉ path.toList) (root : String) (tree : Node) : c ∉ (FileContext.of path root tree).relativePath.toList := by
  have relative : c ∉ (Path.below? root.toList path.toList).getD path.toList := by
    cases isBelow : Path.below? root.toList path.toList with
    | none => exact free
    | some below => exact Path.not_mem_below? slash dot free isBelow
  rw [FileContext.of, String.toList_ofList, sourcePath]
  split
  · exact Path.not_mem_withoutExtension slash relative
  · exact relative

end SheetLint
