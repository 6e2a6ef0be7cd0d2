import SheetLint.Proofs.DumpDocuments
import SheetLint.Proofs.Preorder

/-!
# Reading back a dump

A tree written as a dump is read back as it, and so is every other dump of it, in any order of
the fields and any layout. A level of the tree takes two of the arrays and objects that may be
open in a document, the node's object and the array of its children, and the innermost node one
more beside its own for a position; so the limit falls between 63 levels and 64.
-/

namespace SheetLint
set_option autoImplicit false

namespace Json

theorem Quotes.sound {s : String} {j : Json} (quotes : Quotes s j) : j.Sound := by
  cases quotes with
  | text spells => exact List.forall_mem_singleton.2 ⟨_, spells⟩

theorem Idle.sound {j : Json} (idle : Idle j) : j.Sound := by
  cases idle with
  | null => exact List.forall_mem_singleton.2 trivial
  | bool b => exact List.forall_mem_singleton.2 trivial
  | text quotes => exact quotes.sound

theorem sound_ofNat (n : Nat) : (ofNat n).Sound :=
  List.forall_mem_singleton.2 (Numeral.numeralB_toDigits n)

theorem sound_ofNats (ns : List Nat) : (array (ns.map ofNat)).Sound :=
  sound_array (List.forall_mem_map.2 fun n _ => sound_ofNat n)

section Plain

variable {room : Nat}

theorem plainItemsB_iff {items : List Json} :
    plainItemsB items room = true ↔ ∀ item ∈ items, item.plainB room = true := by
  induction items with
  | nil => simp [plainItemsB]
  | cons item rest ih => simp [plainItemsB, ih]

theorem plainFieldsB_iff {entries : List (List Char × Json)} :
    plainFieldsB entries room = true ↔
      ∀ e ∈ entries, (Quoted.decode? e.1).isSome = true ∧ e.2.plainB room = true := by
  induction entries with
  | nil => simp [plainFieldsB]
  | cons e rest ih => simp [plainFieldsB, ih]

theorem plainB_array {items : List Json} :
    (array items).plainB room = true ↔ 0 < room ∧ ∀ item ∈ items, item.plainB (room - 1) = true := by
  rw [plainB, Bool.and_eq_true, decide_eq_true_eq, plainItemsB_iff]

theorem plainB_object {entries : List (List Char × Json)} :
    (object entries).plainB room = true ↔ 0 < room ∧
      ∀ e ∈ entries, (Quoted.decode? e.1).isSome = true ∧ e.2.plainB (room - 1) = true := by
  rw [plainB, Bool.and_eq_true, decide_eq_true_eq, plainFieldsB_iff]

theorem Quotes.plainB {s : String} {j : Json} (quotes : Quotes s j) : j.plainB room = true := by
  cases quotes with
  | text spells => rw [Json.plainB, Quoted.decode?_of_spells spells, Option.isSome_some]

theorem Idle.plainB {j : Json} (idle : Idle j) : j.plainB room = true := by
  cases idle with
  | null => rfl
  | bool b => rfl
  | text quotes => exact quotes.plainB

theorem plainB_ofNat {n : Nat} (fits : n ≤ Node.maxNat) : (ofNat n).plainB room = true :=
  Numeral.finiteB_toDigits (Nat.lt_of_le_pred (by decide) fits)

theorem plainB_ofNats {ns : List Nat} (room_pos : 0 < room) (fits : ∀ n ∈ ns, n ≤ Node.maxNat) :
    (array (ns.map ofNat)).plainB room = true :=
  plainB_array.2 ⟨room_pos, List.forall_mem_map.2 fun n mem => plainB_ofNat (fits n mem)⟩

end Plain

section Records

variable {F : Type} [DecidableEq F] {name : F → String} {mayLack : F → Prop} {holds : F → Json → Prop}
  {fields : List F} {j : Json}

theorem Records.sound (records : Records name mayLack holds fields j) (known : ∀ f v, holds f v → v.Sound) :
    j.Sound := by
  obtain ⟨entries, rfl, lists⟩ := records
  exact sound_object (lists.forall_entries known fun _ => Idle.sound)

theorem Lists.plainB {room : Nat} {entries : List (List Char × Json)} (lists : Lists name mayLack holds fields entries)
    (known : ∀ f v, holds f v → v.plainB room = true) :
    ∀ e ∈ entries, (Quoted.decode? e.1).isSome = true ∧ e.2.plainB room = true := by
  intro e mem
  obtain ⟨⟨key, spells⟩, plain⟩ := lists.forall_entries known (fun _ => Idle.plainB) e mem
  exact ⟨by rw [Quoted.decode?_of_spells spells, Option.isSome_some], plain⟩

end Records
end Json

namespace Position

variable {p : Position} {j : Json}

theorem Dumps.sound (dumps : p.Dumps j) : j.Sound := by
  apply Json.Records.sound dumps
  rintro (_ | _) _ rfl
  · exact Json.sound_ofNat p.line
  · exact Json.sound_ofNat p.column

theorem Dumps.plainB {room : Nat} (dumps : p.Dumps j) (fits : p.Fits) (room_pos : 0 < room) : j.plainB room = true := by
  obtain ⟨entries, rfl, lists⟩ := dumps
  refine Json.plainB_object.2 ⟨room_pos, lists.plainB ?_⟩
  rintro (_ | _) _ rfl
  · exact Json.plainB_ofNat fits.1
  · exact Json.plainB_ofNat fits.2

end Position

namespace Node

/-- What every value in a known field has, from what texts, positions, indexes and contents have. -/
theorem Field.Holds.induct {info : NodeInfo} {dumped : Json → Prop} {P : Json → Prop}
    (quotes : ∀ s j, Json.Quotes s j → P j) (start : ∀ j, info.start.Dumps j → P j)
    (stop : ∀ j, info.stop.Dumps j → P j) (indexes : P (.array (info.indexes.map .ofNat)))
    (content : ∀ j, dumped j → P j) :
    ∀ (f : Field) (j : Json), f.Holds info dumped j → P j
  | .kind, _, held => quotes _ _ held
  | .content, _, held => content _ held
  | .dialect, _, held => quotes _ _ held
  | .start, _, held => start _ held
  | .stop, _, held => stop _ held
  | .indexes, _, held => held ▸ indexes

/-- The document is a content of the node. -/
def DumpsContent : Node → Json → Prop
  | leaf _ t => Json.Quotes t
  | branch _ cs => fun content => ∃ items, content = .array items ∧ DumpsAll cs items

theorem dumps_iff {n : Node} {j : Json} : n.Dumps j ↔ Records n.info n.DumpsContent j := by
  cases n with
  | leaf _ _ | branch _ _ => rw [Dumps]; rfl

section Written

/-- What is written in a field of a dump. -/
def Field.value (info : NodeInfo) (content : Json) : Field → Json
  | kind => .ofString info.kind
  | Field.content => content
  | dialect => .ofString info.dialect.name
  | start => info.start.toJson
  | stop => info.stop.toJson
  | indexes => .array (info.indexes.map .ofNat)

theorem quotes_ofString (s : String) : (Json.ofString s).Quotes s :=
  .text (Json.Quoted.spells_encode _)

theorem records_jsonOf {info : NodeInfo} {dumped : Json → Prop} {content : Json} (held : dumped content) :
    Records info dumped (jsonOf info content) := by
  refine ⟨_, rfl, Json.lists_map (by decide) (Field.value info content) ?_⟩
  intro f
  cases f with
  | kind => exact quotes_ofString _
  | content => exact held
  | dialect => exact quotes_ofString _
  | start => exact info.start.dumps_toJson
  | stop => exact info.stop.dumps_toJson
  | indexes => exact rfl

mutual

/-- What is written for a tree is a dump of it. -/
theorem dumps_toJson : (n : Node) → n.Dumps n.toJson
  | leaf info t => by
    rw [Dumps, toJson]
    exact records_jsonOf (quotes_ofString t)
  | branch info cs => by
    rw [Dumps, toJson]
    exact records_jsonOf ⟨_, rfl, dumpsAll_toJsonAll cs⟩

theorem dumpsAll_toJsonAll : (ns : List Node) → DumpsAll ns (toJsonAll ns)
  | [] => by
    rw [toJsonAll, DumpsAll]
    trivial
  | n :: ns => by
    rw [toJsonAll, DumpsAll]
    exact ⟨dumps_toJson n, dumpsAll_toJsonAll ns⟩

end
end Written

section Sound

theorem sound_of_records {info : NodeInfo} {dumped : Json → Prop} {j : Json} (records : Records info dumped j)
    (content : ∀ j, dumped j → j.Sound) : j.Sound :=
  Json.Records.sound records <| Field.Holds.induct (fun _ _ => Json.Quotes.sound) (fun _ => Position.Dumps.sound)
    (fun _ => Position.Dumps.sound) (Json.sound_ofNats _) content

mutual

/-- Numerals and quoted texts of a dump are sound. -/
theorem sound_of_dumps : (n : Node) → ∀ {j : Json}, n.Dumps j → j.Sound
  | leaf info t, _, dumps => by
    rw [Dumps] at dumps
    exact sound_of_records dumps fun _ => Json.Quotes.sound
  | branch info cs, _, dumps => by
    rw [Dumps] at dumps
    apply sound_of_records dumps
    rintro _ ⟨items, rfl, all⟩
    exact Json.sound_array (sound_of_dumpsAll cs all)

theorem sound_of_dumpsAll : (ns : List Node) → ∀ {js : List Json}, DumpsAll ns js → ∀ j ∈ js, j.Sound
  | [], [], _ => nofun
  | n :: ns, _ :: _, ⟨first, later⟩ => List.forall_mem_cons.2 ⟨sound_of_dumps n first, sound_of_dumpsAll ns later⟩
  | [], _ :: _, dumps | _ :: _, [], dumps => dumps.elim

end
end Sound

section Nesting

/-- The values of a record are plain where its content is. -/
theorem plainB_values {info : NodeInfo} {dumped : Json → Prop} {room : Nat} (fits : info.Fits) (room_pos : 0 < room)
    (content : ∀ j, dumped j → j.plainB room = true) :
    ∀ (f : Field) (j : Json), f.Holds info dumped j → j.plainB room = true :=
  Field.Holds.induct (fun _ _ => Json.Quotes.plainB) (fun _ dumps => dumps.plainB fits.start room_pos)
    (fun _ dumps => dumps.plainB fits.stop room_pos) (Json.plainB_ofNats room_pos fits.indexes) content

mutual

/-- Where there is room for the levels of a tree, its content is plain. -/
theorem content_plainB : (n : Node) → ∀ {j : Json} {room : Nat}, n.Fits → n.DumpsContent j →
    2 * n.levels ≤ room + 1 → j.plainB room = true
  | leaf _ _, _, _, _, quotes, _ => Json.Quotes.plainB quotes
  | branch info cs, _, room, fits, ⟨items, same, all⟩, enough => by
    subst same
    rw [levels] at enough
    have below : ∀ m ∈ preorderAll cs, m.info.Fits := fun m mem => fits m (List.mem_cons_of_mem _ mem)
    exact Json.plainB_array.2 ⟨by omega, items_plainB cs below all (by omega)⟩

theorem items_plainB : (ns : List Node) → ∀ {js : List Json} {room : Nat}, (∀ m ∈ preorderAll ns, m.info.Fits) →
    DumpsAll ns js → 2 * levelsAll ns ≤ room → ∀ j ∈ js, j.plainB room = true
  | [], [], _, _, _, _ => nofun
  | n :: ns, _ :: _, room, fits, ⟨first, later⟩, enough => by
    obtain ⟨here, below⟩ := List.forall_mem_append.1 fits
    rw [levelsAll] at enough
    have positive : 0 < n.levels := by cases n <;> rw [levels] <;> omega
    have info : n.info.Fits := here n n.self_mem_preorder
    have room_pos : 0 < room - 1 := by omega
    obtain ⟨entries, rfl, lists⟩ := dumps_iff.1 first
    have values := lists.plainB <| plainB_values info room_pos fun _ dumps =>
      content_plainB n here dumps (by omega)
    exact List.forall_mem_cons.2 ⟨Json.plainB_object.2 ⟨by omega, values⟩, items_plainB ns below later (by omega)⟩
  | [], _ :: _, _, _, dumps, _ | _ :: _, [], _, _, dumps, _ => dumps.elim

end

mutual

/-- Where the content of a tree is plain, there is room for its levels. -/
theorem levels_le_of_content : (n : Node) → ∀ {j : Json} {room : Nat}, n.DumpsContent j → 0 < room →
    j.plainB room = true → 2 * n.levels ≤ room + 1
  | leaf _ _, _, _, _, room_pos, _ => by
    rw [levels]
    omega
  | branch info cs, _, room, ⟨items, same, all⟩, _, plain => by
    subst same
    obtain ⟨_, inner⟩ := Json.plainB_array.1 plain
    have := levelsAll_le_of_items cs all inner
    rw [levels]
    omega

theorem levelsAll_le_of_items : (ns : List Node) → ∀ {js : List Json} {room : Nat}, DumpsAll ns js →
    (∀ j ∈ js, j.plainB room = true) → 2 * levelsAll ns ≤ room
  | [], [], _, _, _ => by
    rw [levelsAll]
    omega
  | n :: ns, _ :: _, room, ⟨first, later⟩, plain => by
    obtain ⟨here, rest⟩ := List.forall_mem_cons.1 plain
    obtain ⟨entries, rfl, lists⟩ := dumps_iff.1 first
    obtain ⟨_, values⟩ := Json.plainB_object.1 here
    -- the position that is open inside the node leaves room for one more
    obtain ⟨start, start_mem, -, starts⟩ := lists.exists_entry (f := .start) (by decide) id
    obtain ⟨fields, same, -⟩ := starts
    have room_pos : 0 < room - 1 := (Json.plainB_object.1 (same ▸ (values start start_mem).2)).1
    obtain ⟨content, content_mem, -, dumps⟩ := lists.exists_entry (f := .content) (by decide) id
    have first := levels_le_of_content n dumps room_pos (values content content_mem).2
    have later := levelsAll_le_of_items ns later rest
    rw [levelsAll]
    omega
  | [], _ :: _, _, dumps, _ | _ :: _, [], _, dumps, _ => dumps.elim

end

/-- A dump of at most 63 levels is within the limits. -/
theorem rootPlainB_of_levels {n : Node} {j : Json} (fits : n.Fits) (dumps : n.Dumps j) (few : n.levels ≤ 63) :
    rootPlainB j = true := by
  obtain ⟨entries, rfl, lists⟩ := dumps_iff.1 dumps
  have info : n.info.Fits := fits n n.self_mem_preorder
  have room_pos : 0 < maxDepth := by decide
  have values := lists.plainB <| plainB_values info room_pos fun _ dumps =>
    content_plainB n fits dumps (by unfold maxDepth; omega)
  rw [rootPlainB, List.all_eq_true]
  intro e mem
  rw [(values e mem).2, Bool.or_true]

/-- A dump within the limits has at most 63 levels. -/
theorem levels_of_rootPlainB {n : Node} {j : Json} (dumps : n.Dumps j) (plain : rootPlainB j = true) :
    n.levels ≤ 63 := by
  obtain ⟨entries, rfl, lists⟩ := dumps_iff.1 dumps
  obtain ⟨content, mem, named, dumped⟩ := lists.exists_entry (f := .content) (by decide) id
  rw [rootPlainB, List.all_eq_true] at plain
  have inner := plain content mem
  rw [Json.text?_of_spells named, bne_self_eq_false, Bool.false_or] at inner
  have := levels_le_of_content n dumped (by decide) inner
  unfold maxDepth at this
  omega

end Nesting

/-- A text of a dump is read as the document, and then decoded. -/
theorem read?_of_laid {n : Node} {j : Json} {text : String} (dumps : n.Dumps j)
    (laid : Json.Token.Laid j.tokens text.toList) : read? text = ofDump? j := by
  rw [read?, Json.read?_of_laid (sound_of_dumps n dumps) laid, Option.bind_some]

theorem laid_write (n : Node) : Json.Token.Laid n.toJson.tokens n.write.toList := by
  rw [write, String.toList_ofList]
  exact n.toJson.laid_compact

theorem ofDump?_of_levels {n : Node} {j : Json} (fits : n.Fits) (dumps : n.Dumps j) (few : n.levels ≤ 63) :
    ofDump? j = some n := by
  rw [ofDump?, if_pos (rootPlainB_of_levels fits dumps few), ofJson?_of_dumps n fits dumps]

theorem ofDump?_of_many_levels {n : Node} {j : Json} (dumps : n.Dumps j) (many : 64 ≤ n.levels) : ofDump? j = none := by
  rw [ofDump?, if_neg]
  intro plain
  have := levels_of_rootPlainB dumps plain
  omega

/-- **Dumps are read back**: a tree of at most 63 levels is what its own text is read as, and
every other text that dumps it; the text of a deeper tree is refused. -/
theorem read?_dump (n : Node) :
    (n.Fits → n.levels ≤ 63 → read? n.write = some n) ∧
      (64 ≤ n.levels → read? n.write = none) ∧
        ∀ (j : Json) (text : String), n.Fits → n.levels ≤ 63 → n.Dumps j →
          Json.Token.Laid j.tokens text.toList → read? text = some n := by
  have written := read?_of_laid n.dumps_toJson n.laid_write
  refine ⟨?_, ?_, ?_⟩
  · intro fits few
    exact written.trans (ofDump?_of_levels fits n.dumps_toJson few)
  · intro many
    exact written.trans (ofDump?_of_many_levels n.dumps_toJson many)
  · intro j text fits few dumps laid
    exact (read?_of_laid dumps laid).trans (ofDump?_of_levels fits dumps few)

section Nested

/-- What the nodes of a nested tree carry. -/
def nestedInfo : NodeInfo := ⟨"block", .scss, ⟨1, 1⟩, ⟨2, maxNat⟩, []⟩

/-- A tree with `k` levels of branches and a leaf below them. -/
def nested : Nat → Node
  | 0 => leaf nestedInfo "a\n"
  | k + 1 => branch nestedInfo [nested k]

theorem levels_nested (k : Nat) : (nested k).levels = k + 1 := by
  induction k with
  | zero => rw [nested, levels]
  | succ k ih =>
    rw [nested, levels, levelsAll, levelsAll, ih]
    omega

theorem fits_nested (k : Nat) : (nested k).Fits := by
  have info : nestedInfo.Fits := ⟨by decide, by decide, nofun⟩
  induction k with
  | zero => exact List.forall_mem_singleton.2 info
  | succ k ih => exact List.forall_mem_cons.2 ⟨info, List.forall_mem_append.2 ⟨ih, nofun⟩⟩

/-- A dump of a leaf with the fields in another order, without those that may be lacking, and
with a field that is not known. -/
def shuffledDump : Json :=
  .ofFields [("end", .ofFields [("column", .ofNat maxNat), ("line", .ofNat 2)]), ("note", .null),
    ("content", .ofString "a\n"), ("start", .ofFields [("line", .ofNat 1), ("column", .ofNat 1)]),
    ("type", .ofString "block")]

theorem dumps_shuffledDump : (nested 0).Dumps shuffledDump := by
  have stop : nestedInfo.stop.Dumps (.ofFields [("column", .ofNat maxNat), ("line", .ofNat 2)]) :=
    ⟨_, rfl, .plain Position.Field.column (by decide) rfl <| .plain Position.Field.line (by decide) rfl <|
      .nil (by decide)⟩
  have unknown : ∀ f : Field, f.name ≠ "note" := by
    intro f
    cases f <;> decide
  rw [nested, Dumps]
  refine ⟨_, rfl, .plain Field.stop (by decide) stop <| .other (Json.Quoted.spells_encode _) unknown .null <|
    .plain Field.content (by decide) (quotes_ofString _) <|
    .plain Field.start (by decide) (Position.dumps_toJson _) <|
    .plain Field.kind (by decide) (quotes_ofString _) <| .nil ?_⟩
  intro f mem
  cases f with
  | dialect | indexes => rfl
  | kind | content | start | stop => exact absurd mem (by decide)

theorem read?_dump_nested :
    read? (nested 62).write = some (nested 62) ∧ read? (nested 63).write = none ∧
      read? (String.ofList shuffledDump.compact) = some (nested 0) := by
  have laid : Json.Token.Laid shuffledDump.tokens (String.ofList shuffledDump.compact).toList := by
    rw [String.toList_ofList]
    exact shuffledDump.laid_compact
  have one : (nested 0).levels ≤ 63 := by
    rw [levels_nested]
    omega
  have few : (nested 62).levels ≤ 63 := Nat.le_of_eq (levels_nested 62)
  have many : 64 ≤ (nested 63).levels := Nat.le_of_eq (levels_nested 63).symm
  exact ⟨(read?_dump _).1 (fits_nested 62) few, (read?_dump _).2.1 many,
    (read?_dump _).2.2 _ _ (fits_nested 0) one dumps_shuffledDump laid⟩

end Nested
end Node
end SheetLint
