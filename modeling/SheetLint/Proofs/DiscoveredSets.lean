import Mathlib.Data.List.Sort
import SheetLint.Analysis
import SheetLint.Proofs.DiscoveredPaths

/-!
# Discovery as a set operation

Paths are the same when they lead to the same place, component by component. By
places, what is discovered is the union of what the include patterns yield: a path
is in it exactly when some pattern yields a file there whose path no exclude pattern
rejects (`mem_places_iff`). The paths are strictly increasing, so the places that are
in it settle the list, and which patterns there are settles the places: their order
and number do not matter, more excludes take places away and more includes bring some
in. A place that is found under several texts keeps one of them, and only this choice
goes by the order of the include patterns.
-/

namespace SheetLint
set_option autoImplicit false

namespace Path

/-- The places that paths lead to. -/
def places (paths : List (List Char)) : List (List Component) := paths.map components

/-- Components that come strictly before others. -/
def Before (as bs : List Component) : Prop := compareComponents as bs = .lt

instance : Std.Irrefl Before where
  irrefl _ before := (compareComponents_eq_lt_iff.1 before).2 rfl

instance : Std.Antisymm Before where
  antisymm _ _ before after :=
    keyOrder.antisymm (compareComponents_eq_lt_iff.1 before).1 (compareComponents_eq_lt_iff.1 after).1

theorem increasing_iff {paths : List (List Char)} : Increasing paths ↔ (places paths).Pairwise Before := by
  rw [places, List.pairwise_map]
  rfl

variable {ps qs : List (List Char)}

theorem places_sublist (up : Increasing ps) (up' : Increasing qs) (inside : places ps ⊆ places qs) :
    (places ps).Sublist (places qs) := by
  have fewer : (places ps).Subperm (places qs) := List.subperm_of_subset (increasing_iff.1 up).nodup inside
  exact List.sublist_of_subperm_of_pairwise fewer (increasing_iff.1 up) (increasing_iff.1 up')

theorem mem_places_iff_exists {p : List Char} : components p ∈ places ps ↔ ∃ q ∈ ps, sameB q p = true := by
  simp only [places, List.mem_map, sameB_iff]

/-- Paths of the same places are the same texts where each place is spelled in one way. -/
theorem eq_of_places_eq (same : places ps = places qs) (one : ∀ p ∈ ps, ∀ q ∈ qs, sameB p q = true → p = q) :
    ps = qs := by
  induction ps generalizing qs with
  | nil => exact (List.map_eq_nil_iff.1 same.symm).symm
  | cons p ps ih =>
    cases qs with
    | nil => exact absurd same (by simp [places])
    | cons q qs =>
      obtain ⟨here, there⟩ := List.cons.inj same
      have rest : ps = qs := ih there fun a ha b hb => one a (.tail _ ha) b (.tail _ hb)
      rw [one p (.head _) q (.head _) (sameB_iff.2 here), rest]

end Path

namespace Discovery

section Stars

/-- The text is the pattern with every `**` taken out, one after the other from the left. -/
inductive StarsOut : List Char → List Char → Prop where
  | none {pattern : List Char} (free : ¬ ['*', '*'] <:+: pattern) : StarsOut pattern pattern
  | cut {before rest text : List Char} (first : ¬ ['*', '*'] <:+: before ++ ['*']) (more : StarsOut rest text) :
      StarsOut (before ++ '*' :: '*' :: rest) (before ++ text)

theorem not_double_of_free {c : Char} {rest : List Char} (free : ¬ ['*', '*'] <:+: c :: rest) :
    ∀ more, c = '*' → rest = '*' :: more → False := by
  rintro more rfl rfl
  exact free ⟨[], more, rfl⟩

theorem withoutDoubleStars_of_free {pattern : List Char} (free : ¬ ['*', '*'] <:+: pattern) :
    withoutDoubleStars pattern = pattern := by
  induction pattern with
  | nil => rfl
  | cons c rest ih =>
    have later : ¬ ['*', '*'] <:+: rest := fun inside => free (List.infix_cons inside)
    rw [withoutDoubleStars, ih later]
    exact not_double_of_free free

theorem withoutDoubleStars_cut {before : List Char} (first : ¬ ['*', '*'] <:+: before ++ ['*']) (rest : List Char) :
    withoutDoubleStars (before ++ '*' :: '*' :: rest) = before ++ withoutDoubleStars rest := by
  induction before with
  | nil => rfl
  | cons c before ih =>
    have later : ¬ ['*', '*'] <:+: before ++ ['*'] := fun inside => first (List.infix_cons inside)
    rw [List.cons_append, withoutDoubleStars, ih later, List.cons_append]
    -- the star after `before` is the first that follows another one
    intro more star next
    cases before with
    | nil => exact not_double_of_free first [] star rfl
    | cons d before => exact not_double_of_free first (before ++ ['*']) star (by simp_all)

theorem starsOut_withoutDoubleStars (pattern : List Char) : StarsOut pattern (withoutDoubleStars pattern) := by
  fun_induction withoutDoubleStars pattern with
  | case1 rest ih => exact @StarsOut.cut [] rest _ (by decide) ih
  | case2 c rest single ih =>
    have apart {tail : List Char} (starts : tail <+: rest) (free : ¬ ['*', '*'] <:+: tail) :
        ¬ ['*', '*'] <:+: c :: tail := by
      rw [List.infix_cons_iff, not_or]
      refine ⟨fun front => ?_, free⟩
      obtain ⟨star, next⟩ := List.cons_prefix_cons.1 front
      obtain ⟨more, rfl⟩ := next.trans starts
      exact single more star.symm rfl
    generalize withoutDoubleStars rest = text at ih
    cases ih with
    | none free => exact .none (apart (List.prefix_refl rest) free)
    | @cut before rest text first more =>
      have starts : before ++ ['*'] <+: before ++ '*' :: '*' :: rest := ⟨'*' :: rest, by simp⟩
      exact @StarsOut.cut (c :: before) rest text (apart starts first) more
  | case3 => exact .none (by decide)

theorem starsOut_iff {pattern text : List Char} : StarsOut pattern text ↔ withoutDoubleStars pattern = text := by
  constructor
  · intro out
    induction out with
    | none free => exact withoutDoubleStars_of_free free
    | cut first more ih => rw [withoutDoubleStars_cut first, ih]
  · rintro rfl
    exact starsOut_withoutDoubleStars pattern

end Stars

/-- An exclude pattern rejects a path: it is a pattern that the whole path fits, or its text without every `**` is not
empty and stands in the path. -/
def Rejects (pattern path : List Char) : Prop :=
  (∃ tokens, Glob.parse pattern = .ok tokens ∧ Glob.matchesB tokens path = true) ∨
    ∃ text, StarsOut pattern text ∧ text ≠ [] ∧ text <:+: path

/-- An include pattern yields a path: the pattern finds a regular file there, and no exclude pattern rejects the
path. -/
structure Yields (finder : FileFinder) (root : List Char) (excludes : List (List Char)) (pattern path : List Char) :
    Prop where
  found : ∃ paths, finder.glob (root ++ '/' :: pattern) = .ok paths ∧ path ∈ paths
  file : finder.isFile path = true
  kept : ∀ e ∈ excludes, ¬ Rejects e path

theorem rejectsB_iff {pattern path : List Char} : rejectsB path pattern = true ↔ Rejects pattern path := by
  have fits : fitsB pattern path = true ↔
      ∃ tokens, Glob.parse pattern = .ok tokens ∧ Glob.matchesB tokens path = true := by
    unfold fitsB
    cases Glob.parse pattern <;> simp [Glob.acceptsB_eq_matchesB]
  simp only [rejectsB, Rejects, Bool.or_eq_true, fits, Bool.and_eq_true, Bool.not_eq_true', List.isEmpty_eq_false_iff,
    Text.containsB_iff, starsOut_iff, exists_eq_left']

section Discover

variable {finder : FileFinder} {root : List Char} {includes includes' excludes excludes' paths found : List (List Char)}

/-- The patterns are all good exactly when each of them is. -/
theorem exists_globAll_iff :
    (∃ found, globAll finder root includes = .ok found) ↔
      ∀ pattern ∈ includes, ∃ paths, finder.glob (root ++ '/' :: pattern) = .ok paths := by
  induction includes with
  | nil => simp [globAll]
  | cons pattern rest ih =>
    rw [List.forall_mem_cons, ← ih, globAll]
    cases finder.glob (root ++ '/' :: pattern) with
    | error e => simp
    | ok paths => cases globAll finder root rest <;> simp

theorem mem_globAll_iff (ok : globAll finder root includes = .ok found) {p : List Char} :
    p ∈ found ↔ ∃ pattern ∈ includes, ∃ paths, finder.glob (root ++ '/' :: pattern) = .ok paths ∧ p ∈ paths := by
  induction includes generalizing found with
  | nil =>
    obtain rfl := Except.ok.inj ok
    simp
  | cons pattern rest ih =>
    rw [globAll] at ok
    cases first : finder.glob (root ++ '/' :: pattern) with
    | error e => simp [first] at ok
    | ok paths =>
      cases more : globAll finder root rest with
      | error e => simp [first, more] at ok
      | ok others =>
        simp only [first, more, Except.ok.injEq] at ok
        subst ok
        simp [ih more, first]

theorem mem_candidates_iff {p : List Char} :
    p ∈ candidates finder excludes found ↔ p ∈ found ∧ finder.isFile p = true ∧ ∀ e ∈ excludes, ¬ Rejects e p := by
  simp only [candidates, List.mem_mergeSort, List.mem_filter, Bool.and_eq_true, Bool.not_eq_true', List.any_eq_false,
    rejectsB_iff]

/-- Dropping repeats keeps every place. -/
theorem mem_places_dropRepeats {ps : List (List Char)} {c : List Path.Component} :
    c ∈ Path.places (dropRepeats ps) ↔ c ∈ Path.places ps := by
  fun_induction dropRepeats ps with
  | case1 => rfl
  | case2 p => rfl
  | case3 p q rest same ih =>
    rw [ih]
    simp only [Path.places, List.map_cons, List.mem_cons, Path.sameB_iff.1 same, or_self_left]
  | case4 p q rest differs ih =>
    simp only [Path.places, List.map_cons, List.mem_cons] at ih ⊢
    rw [ih]

theorem exists_discover_iff :
    (∃ paths, discover finder root includes excludes = .ok paths) ↔
      ∀ pattern ∈ includes, ∃ paths, finder.glob (root ++ '/' :: pattern) = .ok paths := by
  rw [← exists_globAll_iff]
  simp only [discover_eq_ok_iff]
  constructor
  · rintro ⟨paths, found, ok, -⟩
    exact ⟨found, ok⟩
  · rintro ⟨found, ok⟩
    exact ⟨_, found, ok, rfl⟩

/-- What is discovered is yielded by some include pattern, under the very text. -/
theorem yields_of_mem (ok : discover finder root includes excludes = .ok paths) {p : List Char} (mem : p ∈ paths) :
    ∃ pattern ∈ includes, Yields finder root excludes pattern p := by
  obtain ⟨found, all, rfl⟩ := discover_eq_ok_iff.1 ok
  obtain ⟨there, file, kept⟩ := mem_candidates_iff.1 ((dropRepeats_sublist _).subset mem)
  obtain ⟨pattern, listed, glob⟩ := (mem_globAll_iff all).1 there
  exact ⟨pattern, listed, glob, file, kept⟩

/-- The places that are discovered are those where some include pattern yields a path. -/
theorem mem_places_iff (ok : discover finder root includes excludes = .ok paths) {c : List Path.Component} :
    c ∈ Path.places paths ↔
      ∃ pattern ∈ includes, ∃ q, Path.components q = c ∧ Yields finder root excludes pattern q := by
  constructor
  · intro mem
    obtain ⟨q, listed, rfl⟩ := List.mem_map.1 mem
    obtain ⟨pattern, one, yields⟩ := yields_of_mem ok listed
    exact ⟨pattern, one, q, rfl, yields⟩
  · rintro ⟨pattern, one, q, rfl, glob, file, kept⟩
    obtain ⟨found, all, rfl⟩ := discover_eq_ok_iff.1 ok
    rw [mem_places_dropRepeats]
    exact List.mem_map_of_mem (mem_candidates_iff.2 ⟨(mem_globAll_iff all).2 ⟨pattern, one, glob⟩, file, kept⟩)

/-- Fewer includes and more excludes leave fewer places. -/
theorem places_sublist_of_subset (ok : discover finder root includes excludes = .ok paths) {paths' : List (List Char)}
    (ok' : discover finder root includes' excludes' = .ok paths') (fewer : includes' ⊆ includes)
    (more : excludes ⊆ excludes') : (Path.places paths').Sublist (Path.places paths) := by
  refine Path.places_sublist (discover_increasing ok') (discover_increasing ok) fun c mem => ?_
  obtain ⟨pattern, one, q, same, glob, file, kept⟩ := (mem_places_iff ok').1 mem
  exact (mem_places_iff ok).2 ⟨pattern, fewer one, q, same, glob, file, fun e listed => kept e (more listed)⟩

/-- The texts too are kept where only the order and number of the exclude patterns change. -/
theorem discover_excludes_congr (same : ∀ e, e ∈ excludes' ↔ e ∈ excludes) :
    discover finder root includes excludes' = discover finder root includes excludes := by
  have alike (found : List (List Char)) : candidates finder excludes' found = candidates finder excludes found := by
    have rejected (p : List Char) : excludes'.any (rejectsB p) = excludes.any (rejectsB p) := by
      rw [Bool.eq_iff_iff, List.any_eq_true, List.any_eq_true]
      simp only [same]
    simp only [candidates, rejected]
  simp only [discover_eq, alike]

/-- **Discovery is a set operation.** For every file system, as far as it is known from what patterns find and which
paths lead to files, and all include and exclude patterns where discovery succeeds: the paths are strictly increasing,
so none occurs twice, and a path is among them exactly when some include pattern yields one that is the same. Where the
same patterns are listed in another order or another number of times, discovery succeeds with the same paths, and with
the same texts unless the include patterns change and yield a place under several texts. More exclude patterns
only take paths away and more include patterns only bring paths in. -/
theorem discover_set_operation (ok : discover finder root includes excludes = .ok paths) :
    Path.Increasing paths ∧
    (∀ p, (∃ q ∈ paths, Path.sameB q p = true) ↔
      ∃ pattern ∈ includes, ∃ q, Path.sameB q p = true ∧ Yields finder root excludes pattern q) ∧
    (∀ p ∈ paths, ∃ pattern ∈ includes, Yields finder root excludes pattern p) ∧
    (∀ includes' excludes', (∀ i, i ∈ includes' ↔ i ∈ includes) → (∀ e, e ∈ excludes' ↔ e ∈ excludes) →
      ∃ paths', discover finder root includes' excludes' = .ok paths' ∧ Path.places paths' = Path.places paths ∧
        ((∀ i ∈ includes, ∀ j ∈ includes, ∀ p q, Yields finder root excludes i p → Yields finder root excludes j q →
          Path.sameB p q = true → p = q) → paths' = paths)) ∧
    (∀ excludes', (∀ e, e ∈ excludes' ↔ e ∈ excludes) → discover finder root includes excludes' = .ok paths) ∧
    (∀ excludes', excludes ⊆ excludes' → ∃ paths', discover finder root includes excludes' = .ok paths' ∧
      (Path.places paths').Sublist (Path.places paths)) ∧
    ∀ includes' paths', includes ⊆ includes' → discover finder root includes' excludes = .ok paths' →
      (Path.places paths).Sublist (Path.places paths') := by
  have good := exists_discover_iff.1 ⟨paths, ok⟩
  refine ⟨discover_increasing ok, ?_, fun p => yields_of_mem ok, ?_, ?_, ?_, ?_⟩
  · intro p
    rw [← Path.mem_places_iff_exists, mem_places_iff ok]
    simp only [Path.sameB_iff]
  · intro includes' excludes' includes_same excludes_same
    have again : ∃ paths', discover finder root includes' excludes' = .ok paths' :=
      exists_discover_iff.2 fun i mem => good i ((includes_same i).1 mem)
    obtain ⟨paths', ok'⟩ := again
    -- either discovery has all that the other has
    have fewer : (Path.places paths').Sublist (Path.places paths) :=
      places_sublist_of_subset ok ok' (fun i => (includes_same i).1) fun e => (excludes_same e).2
    have more : (Path.places paths).Sublist (Path.places paths') :=
      places_sublist_of_subset ok' ok (fun i => (includes_same i).2) fun e => (excludes_same e).1
    have same : Path.places paths' = Path.places paths := fewer.antisymm more
    refine ⟨paths', ok', same, fun spelled => Path.eq_of_places_eq same fun p mem q mem' equal => ?_⟩
    obtain ⟨i, listed, glob, file, kept⟩ := yields_of_mem ok' mem
    obtain ⟨j, listed', yields'⟩ := yields_of_mem ok mem'
    have yields : Yields finder root excludes i p := ⟨glob, file, fun e mem => kept e ((excludes_same e).2 mem)⟩
    exact spelled i ((includes_same i).1 listed) j listed' p q yields yields' equal
  · intro excludes' same
    rw [discover_excludes_congr same, ok]
  · intro excludes' more
    have again : ∃ paths', discover finder root includes excludes' = .ok paths' := exists_discover_iff.2 good
    obtain ⟨paths', ok'⟩ := again
    exact ⟨paths', ok', places_sublist_of_subset ok ok' (List.Subset.refl _) more⟩
  · intro includes' paths' more ok'
    exact places_sublist_of_subset ok' ok more (List.Subset.refl _)

end Discover

section Sample

/-- A directory with a dump, and below it one with another dump. -/
def vendoredFiles : FileSystem where
  root := .directory [("p", .directory [("a.scss.json", .file "".toUTF8),
    ("vendor", .directory [("b.scss.json", .file "".toUTF8)])])]
  workDir := []

/-- A dump in the root. -/
def ownPath : List Char := "/p/a.scss.json".toList

/-- The same dump by another path. -/
def dottedPath : List Char := "/p/./a.scss.json".toList

/-- A dump in a directory that is excluded. -/
def vendoredPath : List Char := "/p/vendor/b.scss.json".toList

/-- Both include patterns find the first dump, under two texts, and the exclude pattern rejects the other. -/
theorem discover_overlapping :
    discover vendoredFiles.source.toFileFinder "/p".toList ["**/*.json".toList, "./a.scss.json".toList]
      ["**/vendor/**".toList] = .ok [ownPath] := by
  refine discover_eq_ok_iff.2 ⟨[ownPath, vendoredPath, dottedPath], by decide +kernel, ?_⟩
  have kept : ([ownPath, vendoredPath, dottedPath].filter fun p =>
      vendoredFiles.isFile p && !(["**/vendor/**".toList].any (rejectsB p))) = [ownPath, dottedPath] := by
    decide +kernel
  have order : Path.leB ownPath dottedPath = true := by decide +kernel
  have same : Path.sameB ownPath dottedPath = true := by decide +kernel
  refine (congrArg (fun ps => dropRepeats (ps.mergeSort Path.leB)) kept).trans ?_
  simp [List.mergeSort, List.MergeSort.Internal.splitInTwo, order, dropRepeats, same]

/-- The other way round and with a repeated pattern the dump is discovered too, and with an exclude pattern more there
is nothing beside it. -/
theorem discover_set_operation_sample :
    discover vendoredFiles.source.toFileFinder "/p".toList ["**/*.json".toList, "./a.scss.json".toList]
      ["**/vendor/**".toList] = .ok [ownPath] ∧
    (∃ paths, discover vendoredFiles.source.toFileFinder "/p".toList
        ["./a.scss.json".toList, "**/*.json".toList, "./a.scss.json".toList] ["**/vendor/**".toList] = .ok paths ∧
      Path.places paths = Path.places [ownPath]) ∧
    ∃ paths, discover vendoredFiles.source.toFileFinder "/p".toList ["**/*.json".toList, "./a.scss.json".toList]
        ["**/vendor/**".toList, "*a*".toList] = .ok paths ∧
      (Path.places paths).Sublist (Path.places [ownPath]) := by
  obtain ⟨-, -, -, again, -, fewer, -⟩ := discover_set_operation discover_overlapping
  refine ⟨discover_overlapping, ?_, fewer _ (by simp)⟩
  obtain ⟨paths, ok, same, -⟩ := again ["./a.scss.json".toList, "**/*.json".toList, "./a.scss.json".toList]
    ["**/vendor/**".toList] (by simp [or_comm]) (by simp)
  exact ⟨paths, ok, same⟩

end Sample
end Discovery
end SheetLint
