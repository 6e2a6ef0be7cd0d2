import SheetLint.FileTree
import SheetLint.Proofs.PathOrder

/-!
# File systems with files removed

`FileSystem.without` removes the files that paths lead to. Every other path leads to
the same place as before and reads the same (`isFile_without`, `read_without`), and a
file is gone under all paths of its place (`goneB_of_same`).
-/

namespace SheetLint
set_option autoImplicit false

namespace FileTree

mutual

/-- The tree that stands at `place`, without the entries at places that are gone. -/
def without (gone : List String → Bool) (place : List String) : FileTree → FileTree
  | file content => file content
  | directory es => directory (withoutEntries gone place es)

/-- The entries of the directory at `place` that are not gone. -/
def withoutEntries (gone : List String → Bool) (place : List String) :
    List (String × FileTree) → List (String × FileTree)
  | [] => []
  | (name, t) :: rest =>
    if gone (place ++ [name]) then withoutEntries gone place rest
    else (name, without gone (place ++ [name]) t) :: withoutEntries gone place rest

end

variable {gone : List String → Bool}

theorem entries_without (place : List String) (t : FileTree) :
    (t.without gone place).entries = withoutEntries gone place t.entries := by
  cases t with
  | file content => simp [without, entries, withoutEntries]
  | directory es => simp [without, entries]

theorem lookup_withoutEntries (place : List String) (name : String) (es : List (String × FileTree)) :
    (withoutEntries gone place es).lookup name =
      if gone (place ++ [name]) then none else (es.lookup name).map (without gone (place ++ [name])) := by
  induction es with
  | nil => simp [withoutEntries]
  | cons e rest ih =>
    obtain ⟨other, t⟩ := e
    by_cases same : name = other
    · subst same
      cases lost : gone (place ++ [name]) with
      | true => rw [withoutEntries, if_pos lost, ih, if_pos lost, if_pos rfl]
      | false => simp [withoutEntries, lost]
    · have apart : (name == other) = false := beq_false_of_ne same
      cases lost : gone (place ++ [other]) <;> simp [withoutEntries, lost, List.lookup_cons, apart, ih]

/-- What is reached once the files at some places are gone. -/
theorem find?_without {t : FileTree} {place : List String} (names : List String) (stays : gone place = false)
    (files : ∀ more, gone (place ++ more) = true → ∃ content, t.find? more = some (file content)) :
    (t.without gone place).find? names =
      if gone (place ++ names) then none else (t.find? names).map (without gone (place ++ names)) := by
  induction names generalizing t place with
  | nil => simp [find?, stays]
  | cons name rest ih =>
    rw [find?, entries_without, lookup_withoutEntries, find?]
    cases found : t.entries.lookup name with
    | none => simp
    | some below =>
      have below_eq (more : List String) : t.find? (name :: more) = below.find? more := by
        rw [find?, found, Option.bind_some]
      cases lost : gone (place ++ [name]) with
      | true =>
        -- a file is gone here, so there was nothing to reach below it
        obtain ⟨content, is⟩ := files [name] lost
        rw [below_eq] at is
        cases is
        cases rest with
        | nil => simp [lost]
        | cons next more => simp [find?, entries]
      | false =>
        have deeper := ih lost (t := below) fun more lost' => by
          rw [List.append_assoc] at lost'
          rw [← below_eq]
          exact files (name :: more) lost'
        rw [List.append_assoc] at deeper
        exact deeper

end FileTree

namespace FileSystem

section Locate

variable {fs : FileSystem}

/-- A segment leads from the directory at `names` with the given entries to the place `next`. -/
def Leads (es : List (String × FileTree)) (names : List String) (segment : List Char) (next : List String) : Prop :=
  match Path.component? segment with
  | some (.name _) => (es.lookup (String.ofList segment)).isSome = true ∧ names ++ [String.ofList segment] = next
  | some _ => names.dropLast = next
  | none => names = next

/-- A step is taken from a directory, where the segment leads. -/
theorem follow_eq_ok_iff {names next : List String} {segment : List Char} :
    fs.follow names segment = .ok next ↔
      ∃ es, fs.root.find? names = some (.directory es) ∧ Leads es names segment next := by
  unfold follow Leads
  cases fs.root.find? names with
  | none => simp
  | some t =>
    cases t with
    | file content => simp
    | directory es =>
      simp only [Option.some.injEq, FileTree.directory.injEq, exists_eq_left']
      cases Path.component? segment with
      | none => simp
      | some c =>
        cases c with
        | name text => cases (es.lookup (String.ofList segment)).isSome <;> simp
        | _ => simp

theorem follow_idle {names next : List String} {segment : List Char} (idle : Path.idleB segment = true)
    (step : fs.follow names segment = .ok next) : names = next := by
  obtain ⟨es, -, leads⟩ := follow_eq_ok_iff.1 step
  rw [Path.idleB, Option.isNone_iff_eq_none] at idle
  simpa [Leads, idle] using leads

theorem followAll_cons_eq_ok_iff {names last : List String} {segment : List Char} {rest : List (List Char)} :
    fs.followAll names (segment :: rest) = .ok last ↔
      ∃ next, fs.follow names segment = .ok next ∧ fs.followAll next rest = .ok last := by
  rw [followAll]
  cases fs.follow names segment <;> simp

theorem locate_eq_ok_iff {path : List Char} {names : List String} :
    fs.locate path = .ok names ↔
      path ≠ [] ∧ fs.followAll (if Path.absoluteB path then [] else fs.workDir) (Text.pieces '/' path) = .ok names := by
  unfold locate
  split
  · simp_all
  · rw [and_iff_right ‹_›]

/-- Where segments lead is told by those that are not idle. -/
theorem followAll_steps {names last : List String} {segments : List (List Char)}
    (led : fs.followAll names segments = .ok last) :
    fs.followAll names (segments.filter fun s => !Path.idleB s) = .ok last := by
  induction segments generalizing names with
  | nil => exact led
  | cons segment rest ih =>
    obtain ⟨next, step, led⟩ := followAll_cons_eq_ok_iff.1 led
    cases idle : Path.idleB segment with
    | true =>
      cases follow_idle idle step
      rw [List.filter_cons_of_neg (by simp [idle])]
      exact ih led
    | false =>
      rw [List.filter_cons_of_pos (by simp [idle])]
      exact followAll_cons_eq_ok_iff.2 ⟨next, step, ih led⟩

/-- Paths of one place that lead somewhere lead to the same names. -/
theorem locate_eq_of_same {p q : List Char} {names names' : List String} (same : Path.sameB p q = true)
    (located : fs.locate p = .ok names) (located' : fs.locate q = .ok names') : names = names' := by
  obtain ⟨start, steps⟩ := Path.same_way same
  have way {path : List Char} {last : List String} (led : fs.locate path = .ok last) :
      fs.followAll (if Path.absoluteB path then [] else fs.workDir) (Path.steps path) = .ok last :=
    followAll_steps (locate_eq_ok_iff.1 led).2
  have ends := way located
  rw [start, steps, way located'] at ends
  exact (Except.ok.inj ends).symm

/-- Where some path leads, the root is a directory. -/
theorem root_of_locate {path : List Char} {names : List String} (located : fs.locate path = .ok names) :
    ∃ es, fs.root = .directory es := by
  obtain ⟨-, led⟩ := locate_eq_ok_iff.1 located
  obtain ⟨segment, rest, cut⟩ := List.exists_cons_of_ne_nil (Text.pieces_ne_nil '/' path)
  rw [cut] at led
  -- the first segment is followed from a directory, and a file has none in it
  obtain ⟨next, step, -⟩ := followAll_cons_eq_ok_iff.1 led
  obtain ⟨es, found, -⟩ := follow_eq_ok_iff.1 step
  cases root : fs.root with
  | directory es => exact ⟨es, rfl⟩
  | file content =>
    rw [root] at found
    generalize (if Path.absoluteB path then [] else fs.workDir) = start at found
    cases start <;> simp [FileTree.find?, FileTree.entries] at found

/-- A path leads to a file when it can be followed to one. -/
theorem isFile_iff {path : List Char} :
    fs.isFile path = true ↔
      ∃ names content, fs.locate path = .ok names ∧ fs.root.find? names = some (.file content) := by
  unfold isFile find?
  cases located : fs.locate path with
  | error e => simp
  | ok names =>
    cases found : fs.root.find? names with
    | none => simp [found]
    | some t => cases t <;> simp [found, FileTree.isFile, FileTree.isDirectory]

end Locate

/-- Whether one of the paths leads to the place of the given names. -/
def leadsToB (fs : FileSystem) (paths : List (List Char)) (names : List String) : Bool :=
  paths.any fun path => match fs.locate path with
    | .ok led => led == names
    | .error _ => false

/-- The file system without the files that paths lead to. -/
def without (fs : FileSystem) (paths : List (List Char)) : FileSystem :=
  { fs with root := fs.root.without (fs.leadsToB paths) [] }

/-- Whether a path leads to where one of the paths leads. -/
def goneB (fs : FileSystem) (paths : List (List Char)) (path : List Char) : Bool :=
  match fs.locate path with
  | .ok names => fs.leadsToB paths names
  | .error _ => false

theorem leadsToB_iff {fs : FileSystem} {paths : List (List Char)} {names : List String} :
    fs.leadsToB paths names = true ↔ ∃ path ∈ paths, fs.locate path = .ok names := by
  simp only [leadsToB, List.any_eq_true]
  refine exists_congr fun path => and_congr_right fun _ => ?_
  cases fs.locate path <;> simp

theorem leads_of_without {gone : List String → Bool} {es : List (String × FileTree)} {names next : List String}
    {segment : List Char} (leads : Leads (FileTree.withoutEntries gone names es) names segment next) :
    Leads es names segment next := by
  unfold Leads at leads ⊢
  split at leads
  · obtain ⟨there, rfl⟩ := leads
    rw [FileTree.lookup_withoutEntries] at there
    split at there
    · cases there
    · rw [Option.isSome_map] at there
      exact ⟨there, rfl⟩
  · exact leads
  · exact leads

theorem leads_without {gone : List String → Bool} {es : List (String × FileTree)} {names next : List String}
    {segment : List Char} (leads : Leads es names segment next) (stays : gone next = false) :
    Leads (FileTree.withoutEntries gone names es) names segment next := by
  unfold Leads at leads ⊢
  split at leads
  · obtain ⟨there, rfl⟩ := leads
    rw [FileTree.lookup_withoutEntries, if_neg (by simp [stays]), Option.isSome_map]
    exact ⟨there, rfl⟩
  · exact leads
  · exact leads

section Without

variable {fs : FileSystem} {paths : List (List Char)} (files : ∀ p ∈ paths, fs.isFile p = true)
include files

theorem file_of_leadsToB {names : List String} (gone : fs.leadsToB paths names = true) :
    ∃ content, fs.root.find? names = some (.file content) := by
  obtain ⟨path, mem, located⟩ := leadsToB_iff.1 gone
  obtain ⟨names', content, located', found⟩ := isFile_iff.1 (files path mem)
  rw [located] at located'
  cases located'
  exact ⟨content, found⟩

/-- Directories are not removed. -/
theorem not_leadsToB_of_directory {names : List String} {es : List (String × FileTree)}
    (found : fs.root.find? names = some (.directory es)) : fs.leadsToB paths names = false := by
  rw [Bool.eq_false_iff]
  intro gone
  obtain ⟨content, found'⟩ := file_of_leadsToB files gone
  rw [found] at found'
  cases found'

theorem not_leadsToB_root : fs.leadsToB paths [] = false := by
  rw [Bool.eq_false_iff]
  intro gone
  obtain ⟨path, -, located⟩ := leadsToB_iff.1 gone
  obtain ⟨es, root⟩ := root_of_locate located
  have found : fs.root.find? [] = some (.directory es) := congrArg some root
  rw [not_leadsToB_of_directory files found] at gone
  cases gone

theorem root_find?_without (names : List String) :
    (fs.without paths).root.find? names =
      if fs.leadsToB paths names then none
      else (fs.root.find? names).map (FileTree.without (fs.leadsToB paths) names) :=
  FileTree.find?_without names (not_leadsToB_root files) fun _ gone => file_of_leadsToB files gone

/-- The same directories are left, without the entries that are gone. -/
theorem directory_without_iff {names : List String} {left : List (String × FileTree)} :
    (fs.without paths).root.find? names = some (.directory left) ↔
      ∃ es, fs.root.find? names = some (.directory es) ∧
        FileTree.withoutEntries (fs.leadsToB paths) names es = left := by
  rw [root_find?_without files]
  cases found : fs.root.find? names with
  | none => simp
  | some t =>
    cases t with
    | file content => simp [FileTree.without]
    | directory es => simp [FileTree.without, not_leadsToB_of_directory files found]

theorem file_without_iff {names : List String} {content : ByteArray} :
    (fs.without paths).root.find? names = some (.file content) ↔
      fs.root.find? names = some (.file content) ∧ fs.leadsToB paths names = false := by
  rw [root_find?_without files]
  cases found : fs.root.find? names with
  | none => simp
  | some t => cases t <;> cases fs.leadsToB paths names <;> simp [FileTree.without]

theorem follow_without {names next : List String} {segment : List Char}
    (step : (fs.without paths).follow names segment = .ok next) : fs.follow names segment = .ok next := by
  obtain ⟨left, found, leads⟩ := follow_eq_ok_iff.1 step
  obtain ⟨es, found', rfl⟩ := (directory_without_iff files).1 found
  exact follow_eq_ok_iff.2 ⟨es, found', leads_of_without leads⟩

theorem follow_of_stays {names next : List String} {segment : List Char}
    (step : fs.follow names segment = .ok next) (stays : fs.leadsToB paths next = false) :
    (fs.without paths).follow names segment = .ok next := by
  obtain ⟨es, found, leads⟩ := follow_eq_ok_iff.1 step
  exact follow_eq_ok_iff.2 ⟨_, (directory_without_iff files).2 ⟨es, found, rfl⟩, leads_without leads stays⟩

theorem followAll_without {names last : List String} {segments : List (List Char)}
    (led : (fs.without paths).followAll names segments = .ok last) : fs.followAll names segments = .ok last := by
  induction segments generalizing names with
  | nil => exact led
  | cons segment rest ih =>
    obtain ⟨next, step, led⟩ := followAll_cons_eq_ok_iff.1 led
    exact followAll_cons_eq_ok_iff.2 ⟨next, follow_without files step, ih led⟩

/-- Places on the way are directories, so only the last can be gone. -/
theorem followAll_of_stays {names last : List String} {segments : List (List Char)}
    (led : fs.followAll names segments = .ok last) (stays : fs.leadsToB paths last = false) :
    (fs.without paths).followAll names segments = .ok last := by
  induction segments generalizing names with
  | nil => exact led
  | cons segment rest ih =>
    obtain ⟨next, step, led⟩ := followAll_cons_eq_ok_iff.1 led
    have stays_next : fs.leadsToB paths next = false := by
      cases rest with
      | nil =>
        cases led
        exact stays
      | cons segment' rest' =>
        obtain ⟨_, step', -⟩ := followAll_cons_eq_ok_iff.1 led
        obtain ⟨es, found, -⟩ := follow_eq_ok_iff.1 step'
        exact not_leadsToB_of_directory files found
    exact followAll_cons_eq_ok_iff.2 ⟨next, follow_of_stays files step stays_next, ih led⟩

theorem locate_without {path : List Char} {names : List String}
    (located : (fs.without paths).locate path = .ok names) : fs.locate path = .ok names := by
  obtain ⟨some, led⟩ := locate_eq_ok_iff.1 located
  exact locate_eq_ok_iff.2 ⟨some, followAll_without files led⟩

theorem locate_of_stays {path : List Char} {names : List String} (located : fs.locate path = .ok names)
    (stays : fs.leadsToB paths names = false) : (fs.without paths).locate path = .ok names := by
  obtain ⟨some, led⟩ := locate_eq_ok_iff.1 located
  exact locate_eq_ok_iff.2 ⟨some, followAll_of_stays files led stays⟩

/-- **The files that are left** are those that no removed path leads to. -/
theorem isFile_without (path : List Char) :
    (fs.without paths).isFile path = (fs.isFile path && !fs.goneB paths path) := by
  rw [Bool.eq_iff_iff, Bool.and_eq_true, isFile_iff, isFile_iff]
  constructor
  · rintro ⟨names, content, located, found⟩
    have located' := locate_without files located
    obtain ⟨found', stays⟩ := (file_without_iff files).1 found
    exact ⟨⟨names, content, located', found'⟩, by simp [goneB, located', stays]⟩
  · rintro ⟨⟨names, content, located, found⟩, left⟩
    have stays : fs.leadsToB paths names = false := by simpa [goneB, located] using left
    exact ⟨names, content, locate_of_stays files located stays, (file_without_iff files).2 ⟨found, stays⟩⟩

/-- The files that are left read as before. -/
theorem read_without {path : List Char} (left : (fs.without paths).isFile path = true) :
    (fs.without paths).read path = fs.read path := by
  obtain ⟨names, content, located, found⟩ := isFile_iff.1 left
  simp only [read, located, found, locate_without files located, ((file_without_iff files).1 found).1]

end Without

theorem goneB_iff {fs : FileSystem} {paths : List (List Char)} {path : List Char} :
    fs.goneB paths path = true ↔ ∃ names, fs.locate path = .ok names ∧ ∃ p ∈ paths, fs.locate p = .ok names := by
  unfold goneB
  cases fs.locate path <;> simp [leadsToB_iff]

/-- A file is gone under all paths of its place. -/
theorem goneB_of_same {fs : FileSystem} {paths : List (List Char)} {p q : List Char} (file : fs.isFile p = true)
    (file' : fs.isFile q = true) (same : Path.sameB p q = true) : fs.goneB paths p = fs.goneB paths q := by
  obtain ⟨names, -, located, -⟩ := isFile_iff.1 file
  obtain ⟨names', -, located', -⟩ := isFile_iff.1 file'
  cases locate_eq_of_same same located located'
  simp only [goneB, located, located']

end FileSystem
end SheetLint
