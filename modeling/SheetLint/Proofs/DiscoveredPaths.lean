import SheetLint.Discovery
import SheetLint.Proofs.PathOrder

/-!
# The paths that are discovered

Discovered paths are strictly increasing, and each leads to a file. Taking files
away before discovery and leaving their paths out after it come to the same
(`discover_of_removed`), as long as a place is taken away under all its paths.
-/

namespace SheetLint
set_option autoImplicit false

/-- Paths in order, where a place may have several paths in a row. -/
def Path.Ascending (paths : List (List Char)) : Prop :=
  paths.Pairwise fun p q => Path.leComponentsB (Path.components p) (Path.components q) = true

/-- Paths in order, of which no two are the same place. -/
def Path.Increasing (paths : List (List Char)) : Prop :=
  paths.Pairwise fun p q => Path.compareComponents (Path.components p) (Path.components q) = .lt

namespace Discovery

section DropRepeats

theorem dropRepeats_sublist (paths : List (List Char)) : (dropRepeats paths).Sublist paths := by
  fun_induction dropRepeats paths with
  | case1 => exact .slnil
  | case2 p => exact .refl _
  | case3 p q rest same ih => exact ih.trans ((List.sublist_cons_self q rest).cons_cons p)
  | case4 p q rest differs ih => exact ih.cons_cons p

theorem dropRepeats_cons {p : List Char} {rest : List (List Char)} (apart : ∀ q ∈ rest, Path.sameB p q = false) :
    dropRepeats (p :: rest) = p :: dropRepeats rest := by
  cases rest with
  | nil => simp [dropRepeats]
  | cons q rest => rw [dropRepeats, apart q List.mem_cons_self]; rfl

/-- What follows a path of another place is of other places, too. -/
theorem apart_of_ascending {p q : List Char} {rest : List (List Char)} (up : Path.Ascending (p :: q :: rest))
    (differs : ¬ Path.sameB p q = true) : ∀ r ∈ q :: rest, Path.sameB p r = false := by
  intro r mem
  rw [Bool.eq_false_iff]
  intro same
  rcases List.mem_cons.1 mem with rfl | mem
  · exact differs same
  · have below := List.rel_of_pairwise_cons up (List.mem_cons_self (a := q))
    have above := List.rel_of_pairwise_cons up.of_cons mem
    rw [← Path.sameB_iff.1 same] at above
    exact differs (Path.sameB_iff.2 (Path.keyOrder.antisymm below above))

theorem increasing_dropRepeats {paths : List (List Char)} (up : Path.Ascending paths) :
    Path.Increasing (dropRepeats paths) := by
  fun_induction dropRepeats paths with
  | case1 => exact .nil
  | case2 p => exact List.pairwise_singleton _ p
  | case3 p q rest same ih => exact ih (up.sublist ((List.sublist_cons_self q rest).cons_cons p))
  | case4 p q rest differs ih =>
    refine .cons (fun r mem => ?_) (ih up.of_cons)
    have later : r ∈ q :: rest := (dropRepeats_sublist _).subset mem
    refine Path.compareComponents_eq_lt_iff.2 ⟨List.rel_of_pairwise_cons up later, fun same => ?_⟩
    have apart := apart_of_ascending up differs r later
    rw [Path.sameB_iff.2 same] at apart
    cases apart

/-- Leaving out all paths of some places can be done before or after. -/
theorem filter_dropRepeats {keep : List Char → Bool} {paths : List (List Char)} (up : Path.Ascending paths)
    (whole : ∀ p ∈ paths, ∀ q ∈ paths, Path.sameB p q = true → keep p = keep q) :
    (dropRepeats paths).filter keep = dropRepeats (paths.filter keep) := by
  fun_induction dropRepeats paths with
  | case1 => simp [dropRepeats]
  | case2 p => cases kept : keep p <;> simp [dropRepeats, kept]
  | case3 p q rest same ih =>
    have inside := (List.sublist_cons_self q rest).cons_cons p
    rw [ih (up.sublist inside) fun a ha b hb => whole a (inside.subset ha) b (inside.subset hb)]
    have alike := whole p List.mem_cons_self q (.tail _ (.head _)) same
    cases kept : keep p with
    | false => simp [← alike, kept]
    | true => simp [← alike, kept, dropRepeats, same]
  | case4 p q rest differs ih =>
    have rest_eq := ih up.of_cons fun a ha b hb => whole a (.tail _ ha) b (.tail _ hb)
    cases kept : keep p with
    | false => rw [List.filter_cons_of_neg (by simp [kept]), List.filter_cons_of_neg (by simp [kept]), rest_eq]
    | true =>
      rw [List.filter_cons_of_pos kept, List.filter_cons_of_pos kept, rest_eq, dropRepeats_cons]
      intro r mem
      exact apart_of_ascending up differs r (List.mem_filter.1 mem).1

end DropRepeats

section Discover

variable {finder finder' : FileFinder} {root : List Char} {includes excludes : List (List Char)}

/-- The paths found that lead to files which no pattern rejects, in order. -/
def candidates (finder : FileFinder) (excludes found : List (List Char)) : List (List Char) :=
  (found.filter fun p => finder.isFile p && !excludes.any (rejectsB p)).mergeSort Path.leB

theorem candidates_ascending (finder : FileFinder) (excludes found : List (List Char)) :
    Path.Ascending (candidates finder excludes found) :=
  Path.keyOrder.sortedBy_ascending _

theorem isFile_of_mem_candidates {found : List (List Char)} {p : List Char}
    (mem : p ∈ candidates finder excludes found) : finder.isFile p = true := by
  have kept := (List.mem_filter.1 (List.mem_mergeSort.1 mem)).2
  simp only [Bool.and_eq_true] at kept
  exact kept.1

theorem discover_eq (finder : FileFinder) (root : List Char) (includes excludes : List (List Char)) :
    discover finder root includes excludes =
      (globAll finder root includes).map fun found => dropRepeats (candidates finder excludes found) := by
  unfold discover
  cases globAll finder root includes <;> rfl

theorem discover_eq_ok_iff {paths : List (List Char)} :
    discover finder root includes excludes = .ok paths ↔
      ∃ found, globAll finder root includes = .ok found ∧ dropRepeats (candidates finder excludes found) = paths := by
  rw [discover_eq]
  cases globAll finder root includes <;> simp [Except.map]

theorem discover_increasing {paths : List (List Char)} (ok : discover finder root includes excludes = .ok paths) :
    Path.Increasing paths := by
  obtain ⟨found, -, rfl⟩ := discover_eq_ok_iff.1 ok
  exact increasing_dropRepeats (candidates_ascending finder excludes found)

theorem isFile_of_discover {paths : List (List Char)} (ok : discover finder root includes excludes = .ok paths)
    {p : List Char} (mem : p ∈ paths) : finder.isFile p = true := by
  obtain ⟨found, -, rfl⟩ := discover_eq_ok_iff.1 ok
  exact isFile_of_mem_candidates ((dropRepeats_sublist _).subset mem)

/-- Finders that agree on the files that each pattern finds agree on what all of them find. -/
theorem globAll_agree {isFile : List Char → Bool}
    (agree : ∀ pattern ∈ includes, (finder'.glob (root ++ '/' :: pattern)).map (·.filter isFile) =
      (finder.glob (root ++ '/' :: pattern)).map (·.filter isFile)) :
    (globAll finder' root includes).map (·.filter isFile) = (globAll finder root includes).map (·.filter isFile) := by
  induction includes with
  | nil => rfl
  | cons pattern rest ih =>
    have here := agree pattern List.mem_cons_self
    have there := ih fun other mem => agree other (.tail _ mem)
    unfold globAll
    cases first : finder.glob (root ++ '/' :: pattern) <;> cases first' : finder'.glob (root ++ '/' :: pattern) <;>
      simp only [first, first', Except.map, Except.error.injEq, Except.ok.injEq, reduceCtorEq] at here ⊢
    · exact here
    · cases more : globAll finder root rest <;> cases more' : globAll finder' root rest <;>
        simp only [more, more', Except.map, Except.error.injEq, Except.ok.injEq, reduceCtorEq] at there ⊢
      · exact there
      · rw [List.filter_append, List.filter_append, here, there]

/-- The candidates that are left when files are taken away. -/
theorem candidates_of_removed {gone : List Char → Bool} {found found' : List (List Char)}
    (left : ∀ p, finder'.isFile p = (finder.isFile p && !gone p))
    (agree : found'.filter finder'.isFile = found.filter finder'.isFile) :
    candidates finder' excludes found' = (candidates finder excludes found).filter fun p => !gone p := by
  have kept (f : FileFinder) (ps : List (List Char)) : (ps.filter fun p => f.isFile p && !excludes.any (rejectsB p)) =
      (ps.filter f.isFile).filter fun p => !excludes.any (rejectsB p) := by
    rw [List.filter_filter]
    simp only [Bool.and_comm]
  refine Eq.trans ?_ (Path.keyOrder.filter_sortedBy (fun p => !gone p) _).symm
  refine congrArg (sortedBy Path.leComponentsB Path.components) ?_
  rw [kept, agree, List.filter_filter, List.filter_filter]
  refine List.filter_congr fun p _ => ?_
  rw [left p]
  cases finder.isFile p <;> cases gone p <;> simp

/-- **Taking files away**: what is discovered then is what was discovered before, without the files that are
gone. -/
theorem discover_of_removed {gone : List Char → Bool}
    (left : ∀ p, finder'.isFile p = (finder.isFile p && !gone p))
    (agree : ∀ pattern ∈ includes, (finder'.glob (root ++ '/' :: pattern)).map (·.filter finder'.isFile) =
      (finder.glob (root ++ '/' :: pattern)).map (·.filter finder'.isFile))
    (whole : ∀ p q, finder.isFile p = true → finder.isFile q = true → Path.sameB p q = true → gone p = gone q) :
    discover finder' root includes excludes =
      (discover finder root includes excludes).map (·.filter fun p => !gone p) := by
  have found : (globAll finder' root includes).map (·.filter finder'.isFile) =
      (globAll finder root includes).map (·.filter finder'.isFile) := globAll_agree agree
  rw [discover_eq, discover_eq]
  cases all : globAll finder root includes <;> cases all' : globAll finder' root includes <;>
    simp only [all, all', Except.map, Except.error.injEq, Except.ok.injEq, reduceCtorEq] at found ⊢
  · exact found
  · rw [candidates_of_removed left found]
    refine (filter_dropRepeats (candidates_ascending finder excludes _) fun p hp q hq same => ?_).symm
    rw [whole p q (isFile_of_mem_candidates hp) (isFile_of_mem_candidates hq) same]

end Discover
end Discovery
end SheetLint
