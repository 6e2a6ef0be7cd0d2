import SheetLint.FileContext
import SheetLint.Proofs.PathsBelow

/-!
# Distinct dumps, distinct reports

A dump is reported under its path below the root, and where that path is named after a stylesheet,
under the stylesheet's name. `sourcePath_of_endsIn` says which of the two it is: what is left when the
final `.json` is off decides, by the text after its last slash alone. A reported path ends in the
extension of a dialect or in `json`, so the two kinds of names never meet, and within each kind the
path can be told from the name (`components_eq_of_reported`).
-/

namespace SheetLint
set_option autoImplicit false

namespace Path

/-- What follows the last slash of the path is a name that is not empty, a dot and the extension. -/
def EndsIn (extension path : List Char) : Prop :=
  ∃ before name, Text.pieces '/' path = before ++ [name ++ '.' :: extension] ∧ name ≠ []

section Extension

variable {name extension path : List Char} {before : List (List Char)}

theorem splitExtension_append (some : name ≠ []) (dotless : '.' ∉ extension) :
    splitExtension (name ++ '.' :: extension) = (name, .some extension) := by
  have all : ∀ c ∈ extension.reverse, (c != '.') = true := by
    intro c mem
    rw [bne_iff_ne]
    rintro rfl
    exact dotless (List.mem_reverse.1 mem)
  have backwards : (name ++ '.' :: extension).reverse = extension.reverse ++ '.' :: name.reverse := by simp
  have drop : (name ++ '.' :: extension).reverse.dropWhile (· != '.') = '.' :: name.reverse := by
    rw [backwards, List.dropWhile_append_of_pos all, List.dropWhile_cons_of_neg (by decide)]
  have take : (name ++ '.' :: extension).reverse.takeWhile (· != '.') = extension.reverse := by
    rw [backwards, List.takeWhile_append_of_pos all, List.takeWhile_cons_of_neg (by decide), List.append_nil]
  obtain ⟨d, stem, back⟩ := List.exists_cons_of_ne_nil (List.reverse_ne_nil_iff.2 some)
  have there : name = (d :: stem).reverse := by rw [← back, List.reverse_reverse]
  rw [splitExtension, drop, take, back]
  simp [there]

theorem eq_of_splitExtension (split : (splitExtension name).2 = some extension) :
    ∃ stem, name = stem ++ '.' :: extension ∧ stem ≠ [] := by
  unfold splitExtension at split
  split at split
  · next x d stem drop =>
    obtain rfl := Option.some.inj split
    have dot : x = '.' := by
      have first := List.head?_dropWhile_not (· != '.') name.reverse
      rw [drop] at first
      simpa using first
    refine ⟨(d :: stem).reverse, ?_, by simp⟩
    have whole := congrArg List.reverse (List.takeWhile_append_dropWhile (p := (· != '.')) (l := name.reverse))
    rw [drop, List.reverse_append, List.reverse_reverse, dot, List.reverse_cons, List.append_assoc] at whole
    exact whole.symm
  · cases split

/-- A name with an extension is neither `.` nor `..`. -/
theorem component?_of_extension (named : name ≠ []) (some : extension ≠ []) :
    component? (name ++ '.' :: extension) = .some (.name (name ++ '.' :: extension)) := by
  obtain ⟨c, name, rfl⟩ := List.exists_cons_of_ne_nil named
  obtain ⟨d, extension, rfl⟩ := List.exists_cons_of_ne_nil some
  rw [component?, if_neg (by simp), if_neg (by cases name <;> simp)]

theorem EndsIn.extension? (dotless : '.' ∉ extension) (some : extension ≠ []) (ends : EndsIn extension path) :
    Path.extension? path = .some extension := by
  obtain ⟨before, name, cut, named⟩ := ends
  rw [Path.extension?, fileName?_of_snoc cut (component?_of_extension named some), Option.bind_some,
    splitExtension_append named dotless]

theorem endsIn_of_extension? {s : List Char} (cut : Text.pieces '/' path = before ++ [s]) (counts : idleB s = false)
    (has : extension? path = some extension) : EndsIn extension path := by
  obtain ⟨name, named, split⟩ := Option.bind_eq_some_iff.1 has
  obtain ⟨stem, rfl, some⟩ := eq_of_splitExtension split
  rw [← eq_of_fileName?_snoc cut counts named] at cut
  exact ⟨before, stem, cut, some⟩

/-- A path whose last segment is written in two parts. -/
theorem joinSegments_snoc_append (before : List (List Char)) (s more : List Char) :
    joinSegments (before ++ [s ++ more]) = joinSegments (before ++ [s]) ++ more := by
  cases before with
  | nil => rfl
  | cons t rest =>
    rw [joinSegments_append (List.cons_ne_nil t rest) (List.cons_ne_nil _ []),
      joinSegments_append (List.cons_ne_nil t rest) (List.cons_ne_nil _ []), List.append_assoc]
    rfl

theorem free_of_snoc {s : List Char} (cut : Text.pieces '/' path = before ++ [s]) :
    (∀ t ∈ before, '/' ∉ t) ∧ '/' ∉ s := by
  have free : ∀ t ∈ before ++ [s], '/' ∉ t := by
    rw [← cut]
    exact fun t mem => Text.not_mem_of_mem_pieces mem
  exact ⟨fun t mem => free t (List.mem_append_left _ mem), free s List.mem_concat_self⟩

theorem pieces_snoc (free : ∀ s ∈ before, '/' ∉ s) (slashless : '/' ∉ name) :
    Text.pieces '/' (joinSegments (before ++ [name])) = before ++ [name] := by
  refine pieces_joinSegments (by simp) fun s mem => ?_
  rcases List.mem_append.1 mem with mem | mem
  · exact free s mem
  · rwa [List.mem_singleton.1 mem]

/-- Text that is added to a path that ends in an extension goes to its last component. -/
theorem EndsIn.components_append (some : extension ≠ []) (ends : EndsIn extension path) :
    ∃ cs s, ∀ more, '/' ∉ more → components (path ++ more) = cs ++ [.name (s ++ more)] := by
  obtain ⟨before, name, cut, named⟩ := ends
  refine ⟨leadingComponents before, name ++ '.' :: extension, fun more slashless => ?_⟩
  obtain ⟨free, last⟩ := free_of_snoc cut
  have longer : Text.pieces '/' (path ++ more) = before ++ [(name ++ '.' :: extension) ++ more] := by
    rw [← joinSegments_pieces path, cut, ← joinSegments_snoc_append]
    exact pieces_snoc free fun mem => (List.mem_append.1 mem).elim last slashless
  have counts : component? ((name ++ '.' :: extension) ++ more) =
      .some (.name ((name ++ '.' :: extension) ++ more)) := by
    rw [List.append_assoc, List.cons_append]
    exact component?_of_extension named (by simp [some])
  rw [components_snoc longer (by rw [idleB, counts]; rfl), counts]
  rfl

/-- Paths of one place that end in extensions are of one place also with more text after them. -/
theorem EndsIn.components_append_eq {extension' path' more : List Char} (some : extension ≠ [])
    (some' : extension' ≠ []) (ends : EndsIn extension path) (ends' : EndsIn extension' path')
    (same : components path = components path') (slashless : '/' ∉ more) :
    components (path ++ more) = components (path' ++ more) := by
  obtain ⟨cs, s, longer⟩ := ends.components_append some
  obtain ⟨cs', s', longer'⟩ := ends'.components_append some'
  have short := longer [] List.not_mem_nil
  have short' := longer' [] List.not_mem_nil
  rw [List.append_nil, List.append_nil] at short short'
  rw [short, short'] at same
  obtain ⟨rfl, last⟩ := List.append_inj' same rfl
  obtain rfl := Component.name.inj (List.singleton_inj.1 last)
  rw [longer more slashless, longer' more slashless]

theorem toStem_snoc {s : List Char} (cut : Text.pieces '/' path = before ++ [s]) (counts : idleB s = false) :
    toStem path = if component? s = some .parent then path else joinSegments (before ++ [(splitExtension s).1]) := by
  have last : (Text.pieces '/' path).reverse.dropWhile idleB = s :: before.reverse := by
    rw [cut, List.reverse_append, List.reverse_singleton, List.singleton_append,
      List.dropWhile_cons_of_neg (Bool.eq_false_iff.1 counts)]
  rw [toStem, last]
  simp

end Extension

section Json

variable {path name : List Char} {before : List (List Char)}
  (cut : Text.pieces '/' path = before ++ [name ++ ".json".toList])
include cut

theorem free_of_json : (∀ s ∈ before, '/' ∉ s) ∧ '/' ∉ name := by
  obtain ⟨free, last⟩ := free_of_snoc cut
  exact ⟨free, fun mem => last (List.mem_append_left _ mem)⟩

theorem eq_append_json : path = joinSegments (before ++ [name]) ++ ".json".toList := by
  rw [← joinSegments_snoc_append, ← cut, joinSegments_pieces]

/-- The path without the characters of its extension still has the dot. -/
theorem take_of_json : path.take (path.length - 4) = joinSegments (before ++ [name ++ ['.']]) := by
  have text : path = joinSegments (before ++ [name ++ ['.']]) ++ "json".toList := by
    rw [← joinSegments_snoc_append, List.append_assoc, eq_append_json cut, ← joinSegments_snoc_append]
    rfl
  have length : path.length - 4 = (joinSegments (before ++ [name ++ ['.']])).length := by
    rw [text]
    simp
  rw [length, text, List.take_left]

/-- Taking the extension off a dump's path takes off `.json`. Where that would leave the name `.`, which is no name,
the dot before the extension stays as well. -/
theorem withoutExtension_of_json (some : name ≠ []) :
    withoutExtension path = joinSegments (before ++ [if name = ['.'] then ['.', '.'] else name]) := by
  obtain ⟨free, slashless⟩ := free_of_json cut
  have json : extension? path = .some "json".toList :=
    EndsIn.extension? (by decide) (by decide) ⟨before, name, cut, some⟩
  have pieces : Text.pieces '/' (joinSegments (before ++ [name ++ ['.']])) = before ++ [name ++ ['.']] :=
    pieces_snoc free (by simpa using slashless)
  have counts : idleB (name ++ ['.']) = false := by
    rw [idleB_eq_false_iff]
    simpa using some
  have parent : component? (name ++ ['.']) = .some .parent ↔ name = ['.'] := by
    constructor
    · intro given
      have dots : ['.'] ++ ['.'] = name ++ ['.'] := segment_of_component? given
      exact (List.append_cancel_right dots).symm
    · rintro rfl
      rfl
  rw [withoutExtension, json]
  show toStem (path.take (path.length - 4)) = _
  rw [take_of_json cut, toStem_snoc pieces counts, splitExtension_append some List.not_mem_nil]
  by_cases dot : name = ['.']
  · rw [if_pos (parent.2 dot), if_pos dot, dot]
    rfl
  · rw [if_neg (fun same => dot (parent.1 same)), if_neg dot]

end Json
end Path

theorem Dialect.name_ne_nil (d : Dialect) : d.name.toList ≠ [] := by
  cases d <;> decide

namespace FileContext

/-- The path ends in the extension of a dialect. -/
def NamesStylesheet (path : List Char) : Prop := ∃ d : Dialect, Path.EndsIn d.name.toList path

theorem isStylesheetExtension_iff {extension : List Char} :
    isStylesheetExtension extension = true ↔ ∃ d : Dialect, d.name.toList = extension := by
  rw [isStylesheetExtension, Dialect.ofName?, List.find?_isSome]
  constructor
  · rintro ⟨d, -, same⟩
    exact ⟨d, by rw [eq_of_beq same, String.toList_ofList]⟩
  · rintro ⟨d, rfl⟩
    refine ⟨d, by cases d <;> decide, ?_⟩
    rw [String.ofList_toList, beq_self_eq_true]

theorem extension?_of_dialect {path : List Char} {d : Dialect} (ends : Path.EndsIn d.name.toList path) :
    Path.extension? path = some d.name.toList :=
  ends.extension? (by cases d <;> decide) d.name_ne_nil

section Dump

variable {path name : List Char} {before : List (List Char)}

/-- The name `.` has no extension, and with a second dot it is no name. -/
theorem not_namesStylesheet_of_dot (pieces : Text.pieces '/' path = before ++ [['.']]) : ¬ NamesStylesheet path := by
  rintro ⟨d, earlier, name, cut, some⟩
  have last := (List.append_inj' (pieces.symm.trans cut) rfl).2
  have length := congrArg List.length (List.singleton_inj.1 last)
  rw [List.length_append] at length
  have positive := List.length_pos_iff.2 some
  simp only [List.length_cons, List.length_nil] at length
  omega

theorem extension?_of_parent (pieces : Text.pieces '/' path = before ++ [['.', '.']]) :
    Path.extension? path = none := by
  have last : (Path.components path).getLast? = some .parent := by
    rw [Path.components_snoc pieces rfl]
    exact List.getLast?_concat
  have file : Path.fileName? path = none := by rw [Path.fileName?, last]
  rw [Path.extension?, file, Option.bind_none]

theorem namesStylesheet_iff (pieces : Text.pieces '/' path = before ++ [name]) (counts : Path.idleB name = false) :
    NamesStylesheet path ↔ (Path.extension? path).any isStylesheetExtension = true := by
  constructor
  · rintro ⟨d, ends⟩
    rw [extension?_of_dialect ends]
    exact isStylesheetExtension_iff.2 ⟨d, rfl⟩
  · intro dialect
    obtain ⟨extension, has, known⟩ := (Option.any_eq_true _ _).1 dialect
    obtain ⟨d, rfl⟩ := isStylesheetExtension_iff.1 known
    exact ⟨d, Path.endsIn_of_extension? pieces counts has⟩

end Dump

/-- **The name a dump is reported under**: that of a stylesheet where one is left without `.json`, else its own. -/
theorem sourcePath_of_endsIn {path : List Char} (json : Path.EndsIn "json".toList path) :
    ∃ stem, path = stem ++ ".json".toList ∧
      (NamesStylesheet stem ∧ sourcePath path = stem ∨ ¬ NamesStylesheet stem ∧ sourcePath path = path) := by
  have has : Path.extension? path = some "json".toList := json.extension? (by decide) (by decide)
  obtain ⟨before, name, cut, named⟩ := json
  obtain ⟨free, slashless⟩ := Path.free_of_json cut
  have pieces := Path.pieces_snoc free slashless
  have without := Path.withoutExtension_of_json cut named
  refine ⟨_, Path.eq_append_json cut, ?_⟩
  unfold sourcePath
  by_cases dot : name = ['.']
  -- For `..json`, `sourcePath` looks at `..` and the rule at `.`: neither has an extension.
  · subst dot
    rw [if_pos rfl] at without
    rw [without, extension?_of_parent (Path.pieces_snoc free (by decide)), if_neg (by simp)]
    exact Or.inr ⟨not_namesStylesheet_of_dot pieces, rfl⟩
  · rw [if_neg dot] at without
    have known := namesStylesheet_iff pieces (Path.idleB_eq_false_iff.2 ⟨named, dot⟩)
    rw [without]
    by_cases stylesheet : NamesStylesheet (Path.joinSegments (before ++ [name]))
    · exact Or.inl ⟨stylesheet, if_pos ⟨has, known.1 stylesheet⟩⟩
    · exact Or.inr ⟨stylesheet, if_neg fun both => stylesheet (known.2 both.2)⟩

/-- A dump at the root of a run or below it. -/
structure DumpUnder (root path : String) : Prop where
  under : Path.components root.toList <+: Path.components path.toList
  json : Path.extension? path.toList = some "json".toList

/-- What a dump is reported under, for its path below the root: nothing for the root itself, a path that ends in the
extension of a dialect where taking off the final `.json` leaves one, and else the path as it is. -/
inductive Reported : List Char → List Char → Prop where
  | root : Reported [] []
  | stylesheet {stem : List Char} (names : NamesStylesheet stem) : Reported (stem ++ ".json".toList) stem
  | dump {stem : List Char} (other : ¬ NamesStylesheet stem) :
    Reported (stem ++ ".json".toList) (stem ++ ".json".toList)

/-- The path of a dump below the root is empty or ends in `json`. -/
def NamesDump (below : List Char) : Prop := below = [] ∨ Path.EndsIn "json".toList below

theorem DumpUnder.namesDump {root path : String} (dump : DumpUnder root path) {below : List Char}
    (isBelow : Path.Below root.toList path.toList below) : NamesDump below := by
  by_cases none : Path.components below = []
  · exact Or.inl (Path.eq_nil_of_components none)
  · refine Or.inr ?_
    obtain ⟨name, named, split⟩ := Option.bind_eq_some_iff.1 dump.json
    have file : Path.fileName? below = some name := by
      rw [← named, Path.fileName?, Path.fileName?, isBelow.components, List.getLast?_append_of_ne_nil _ none]
    obtain ⟨before, cut⟩ := isBelow.ends name file
    obtain ⟨stem, rfl, some⟩ := Path.eq_of_splitExtension split
    exact ⟨before, stem, cut, some⟩

theorem reported_sourcePath {below : List Char} (json : NamesDump below) : Reported below (sourcePath below) := by
  rcases json with rfl | json
  · exact .root
  · obtain ⟨stem, split, ⟨names, source⟩ | ⟨other, source⟩⟩ := sourcePath_of_endsIn json
    · rw [source, split]
      exact .stylesheet names
    · rw [source, split]
      exact .dump other

/-- A name with the extension of a dialect is not that of a dump, nor that of the root. -/
theorem extension?_ne {path below : List Char} (names : NamesStylesheet path) (json : NamesDump below) :
    Path.extension? path ≠ Path.extension? below := by
  obtain ⟨d, ends⟩ := names
  rw [extension?_of_dialect ends]
  rcases json with rfl | json
  · exact Option.some_ne_none _
  · rw [json.extension? (by decide) (by decide)]
    cases d <;> decide

/-- **A reported path tells the path of the dump.** -/
theorem components_eq_of_reported {below below' path path' : List Char} (json : NamesDump below)
    (json' : NamesDump below') (reported : Reported below path) (reported' : Reported below' path')
    (same : Path.components path = Path.components path') : Path.components below = Path.components below' := by
  have extensions : Path.extension? path = Path.extension? path' := by
    rw [Path.extension?, Path.fileName?, same]
    rfl
  cases reported with
  | stylesheet names =>
    cases reported' with
    | stylesheet names' =>
      -- One place before `.json` is put back, so one place after.
      obtain ⟨d, ends⟩ := names
      obtain ⟨d', ends'⟩ := names'
      exact ends.components_append_eq d.name_ne_nil d'.name_ne_nil ends' same (by decide)
    | root => exact absurd extensions (extension?_ne names json')
    | dump => exact absurd extensions (extension?_ne names json')
  | root =>
    cases reported' with
    | stylesheet names' => exact absurd extensions.symm (extension?_ne names' json)
    | root => exact same
    | dump => exact same
  | dump =>
    cases reported' with
    | stylesheet names' => exact absurd extensions.symm (extension?_ne names' json)
    | root => exact same
    | dump => exact same

theorem DumpUnder.exists_reported {root path : String} (dump : DumpUnder root path) (tree : Node) :
    ∃ below, Path.Below root.toList path.toList below ∧ NamesDump below ∧
      Reported below (of path root tree).relativePath.toList := by
  obtain ⟨below, found, isBelow⟩ := Path.exists_below? dump.under
  have json := dump.namesDump isBelow
  refine ⟨below, isBelow, json, ?_⟩
  rw [of, found, Option.getD_some, String.toList_ofList]
  exact reported_sourcePath json

/-- **Distinct dumps are reported under distinct paths.** Every dump under a root is reported under its path below the
root, less the final `.json` exactly where what remains ends in the extension of a dialect. Two dumps under one root
whose paths differ by their components are reported under paths that differ by their components, whatever the trees in
them. -/
theorem distinct_dumps_reported_apart (root : String) :
    (∀ (path : String) (tree : Node), DumpUnder root path →
      ∃ below, Path.Below root.toList path.toList below ∧ Reported below (of path root tree).relativePath.toList) ∧
    ∀ (p q : String) (tree tree' : Node), DumpUnder root p → DumpUnder root q →
      Path.components p.toList ≠ Path.components q.toList →
      Path.components (of p root tree).relativePath.toList ≠ Path.components (of q root tree').relativePath.toList := by
  refine ⟨fun path tree dump => ?_, fun p q tree tree' dump dump' apart same => ?_⟩
  · obtain ⟨below, isBelow, -, reported⟩ := dump.exists_reported tree
    exact ⟨below, isBelow, reported⟩
  · obtain ⟨below, isBelow, json, reported⟩ := dump.exists_reported tree
    obtain ⟨below', isBelow', json', reported'⟩ := dump'.exists_reported tree'
    apply apart
    rw [isBelow.components, isBelow'.components, components_eq_of_reported json json' reported reported' same]

/-- A dump that is named after a stylesheet, written with idle segments, and one whose name starts with its only
other dot. -/
theorem distinct_dumps_reported_apart_sample :
    DumpUnder "/p" "/p//./a.scss.json/." ∧ DumpUnder "/p" "/p/.scss.json" ∧
    Path.components "/p//./a.scss.json/.".toList ≠ Path.components "/p/.scss.json".toList ∧
    (∃ below, Path.Below "/p".toList "/p//./a.scss.json/.".toList below ∧
      Reported below (of "/p//./a.scss.json/." "/p" default).relativePath.toList) ∧
    Path.components (of "/p//./a.scss.json/." "/p" default).relativePath.toList ≠
      Path.components (of "/p/.scss.json" "/p" default).relativePath.toList := by
  have dump : DumpUnder "/p" "/p//./a.scss.json/." := ⟨by decide +kernel, by decide +kernel⟩
  have dump' : DumpUnder "/p" "/p/.scss.json" := ⟨by decide +kernel, by decide +kernel⟩
  have apart : Path.components "/p//./a.scss.json/.".toList ≠ Path.components "/p/.scss.json".toList := by
    decide +kernel
  obtain ⟨reported, distinct⟩ := distinct_dumps_reported_apart "/p"
  exact ⟨dump, dump', apart, reported _ default dump, distinct _ _ default default dump dump' apart⟩

end FileContext
end SheetLint
