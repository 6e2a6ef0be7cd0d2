import SheetLint.Node.Dump
import SheetLint.Node.Walk
import SheetLint.Proofs.DocumentTexts

/-!
# Dumps of a tree

Which documents are dumps of a tree, and that each of them is decoded as it. A record is an
object that lists the known fields once each in any order, with other fields among them
(`Json.Lists`); a field that may be lacking is one whose value is the default. Decoding goes
through the fields with a draft, and what carries the induction is that the draft holds just
the fields that are no longer due.
-/

namespace SheetLint
set_option autoImplicit false

namespace Json

/-- The document is the text, with any escapes. -/
inductive Quotes (s : String) : Json → Prop where
  | text {body : List Char} (spells : Quoted.Spells body s.toList) : Quotes s (.text body)

/-- A value that may stand in a field that is not known. -/
inductive Idle : Json → Prop where
  | null : Idle .null
  | bool (b : Bool) : Idle (.bool b)
  | text {s : String} {j : Json} (quotes : Quotes s j) : Idle j

theorem text?_of_spells {body : List Char} {s : String} (spells : Quoted.Spells body s.toList) :
    text? (.text body) = some s := by
  rw [text?, Quoted.decode?_of_spells spells, Option.map_some, String.ofList_toList]

theorem Quotes.text?_eq {s : String} {j : Json} (quotes : Quotes s j) : j.text? = some s := by
  cases quotes with
  | text spells => exact text?_of_spells spells

theorem natUpTo?_ofNat {most n : Nat} (fits : n ≤ most) : natUpTo? most (ofNat n) = some n := by
  rw [ofNat, natUpTo?, Numeral.toNat?_toDigits, Option.filter_some_pos (by simpa using fits)]

/-- Reading what is written for each of several things gives what is kept of each. -/
theorem mapM_of_forall {α β γ : Type} {write : α → γ} {read : γ → Option β} {kept : α → β} {xs : List α}
    (each : ∀ x ∈ xs, read (write x) = some (kept x)) : (xs.map write).mapM read = some (xs.map kept) := by
  induction xs with
  | nil => rfl
  | cons x xs ih =>
    obtain ⟨first, later⟩ := List.forall_mem_cons.1 each
    rw [List.map_cons, List.mapM_cons, first, ih later]
    rfl

theorem mapM_natUpTo? {most : Nat} {ns : List Nat} (fits : ∀ n ∈ ns, n ≤ most) :
    (ns.map ofNat).mapM (natUpTo? most) = some ns := by
  have read := mapM_of_forall fun n mem => natUpTo?_ofNat (fits n mem)
  rwa [List.map_id'] at read

section Lists

variable {F : Type} [DecidableEq F]

/-- The fields that are due once `f` is there. -/
def without (due : List F) (f : F) : List F := due.filter (· ≠ f)

theorem mem_without {due : List F} {f g : F} : g ∈ without due f ↔ g ∈ due ∧ g ≠ f := by
  simp [without]

/-- The entries give the fields that are due, once each and in any order: a field that is not
given may be lacking, and entries of other names are idle. -/
inductive Lists (name : F → String) (mayLack : F → Prop) (holds : F → Json → Prop) :
    List F → List (List Char × Json) → Prop where
  | nil {due : List F} (lacking : ∀ f ∈ due, mayLack f) : Lists name mayLack holds due []
  | known {due : List F} {f : F} {body : List Char} {value : Json} {entries : List (List Char × Json)}
    (isDue : f ∈ due) (named : Quoted.Spells body (name f).toList) (held : holds f value)
    (rest : Lists name mayLack holds (without due f) entries) :
    Lists name mayLack holds due ((body, value) :: entries)
  | other {due : List F} {key : String} {body : List Char} {value : Json} {entries : List (List Char × Json)}
    (named : Quoted.Spells body key.toList) (unknown : ∀ f, name f ≠ key) (idle : Idle value)
    (rest : Lists name mayLack holds due entries) : Lists name mayLack holds due ((body, value) :: entries)

variable {name : F → String} {mayLack : F → Prop} {holds : F → Json → Prop} {due : List F}
  {entries : List (List Char × Json)}

/-- What every value in a field has, known or not. -/
theorem Lists.forall_entries {P : Json → Prop} (lists : Lists name mayLack holds due entries)
    (known : ∀ f value, holds f value → P value) (other : ∀ value, Idle value → P value) :
    ∀ e ∈ entries, (∃ key : List Char, Quoted.Spells e.1 key) ∧ P e.2 := by
  induction lists with
  | nil _ => exact nofun
  | known _ named held _ ih => exact List.forall_mem_cons.2 ⟨⟨⟨_, named⟩, known _ _ held⟩, ih⟩
  | other named _ idle _ ih => exact List.forall_mem_cons.2 ⟨⟨⟨_, named⟩, other _ idle⟩, ih⟩

/-- A field that may not be lacking is there. -/
theorem Lists.exists_entry {f : F} (lists : Lists name mayLack holds due entries) (isDue : f ∈ due)
    (needed : ¬mayLack f) : ∃ e ∈ entries, Quoted.Spells e.1 (name f).toList ∧ holds f e.2 := by
  induction lists with
  | nil lacking => exact absurd (lacking f isDue) needed
  | @known _ g body value entries _ named held _ ih =>
    by_cases same : f = g
    · subst same
      exact ⟨_, List.mem_cons_self, named, held⟩
    · obtain ⟨e, mem, found⟩ := ih (mem_without.2 ⟨isDue, same⟩)
      exact ⟨e, List.mem_cons_of_mem _ mem, found⟩
  | other _ _ _ _ ih =>
    obtain ⟨e, mem, found⟩ := ih isDue
    exact ⟨e, List.mem_cons_of_mem _ mem, found⟩

/-- A reader that takes each known field into its draft and passes over the others ends with a
draft of all that is not lacking. -/
theorem Lists.fold {D : Type} (lists : Lists name mayLack holds due entries)
    (read : D → List (List Char × Json) → Option D) (draft : List F → D) (done : ∀ d, read d [] = some d)
    (known : ∀ {due : List F} {f : F} {body : List Char} {value : Json} (rest : List (List Char × Json)), f ∈ due →
      Quoted.Spells body (name f).toList → holds f value →
      read (draft due) ((body, value) :: rest) = read (draft (without due f)) rest)
    (other : ∀ {due : List F} {key : String} {body : List Char} (value : Json) (rest : List (List Char × Json)),
      Quoted.Spells body key.toList → (∀ f, name f ≠ key) →
      read (draft due) ((body, value) :: rest) = read (draft due) rest) :
    ∃ lacking, (∀ f ∈ lacking, mayLack f) ∧ read (draft due) entries = some (draft lacking) := by
  induction lists with
  | @nil due lacking => exact ⟨due, lacking, done _⟩
  | known isDue named held _ ih =>
    rw [known _ isDue named held]
    exact ih
  | other named unknown _ _ ih =>
    rw [other _ _ named unknown]
    exact ih

/-- A known field whose name has no escape but those it needs. -/
theorem Lists.plain (f : F) {value : Json} (isDue : f ∈ due) (held : holds f value)
    (rest : Lists name mayLack holds (without due f) entries) :
    Lists name mayLack holds due ((Quoted.encode (name f).toList, value) :: entries) :=
  .known isDue (Quoted.spells_encode _) held rest

/-- Every field in order, each written plainly, is a listing. -/
theorem lists_map {fields : List F} (distinct : fields.Nodup) (value : F → Json) (held : ∀ f, holds f (value f)) :
    Lists name mayLack holds fields (fields.map fun f => (Quoted.encode (name f).toList, value f)) := by
  induction fields with
  | nil => exact .nil nofun
  | cons f rest ih =>
    obtain ⟨fresh, distinct⟩ := List.nodup_cons.1 distinct
    have left : without (f :: rest) f = rest := by
      rw [without, List.filter_cons_of_neg (by simp), List.filter_eq_self]
      intro g mem
      simpa using fun same : g = f => fresh (same ▸ mem)
    exact .plain f List.mem_cons_self (held f) (left.symm ▸ ih distinct)

/-- The document is an object that lists the fields. -/
def Records (name : F → String) (mayLack : F → Prop) (holds : F → Json → Prop) (fields : List F) (j : Json) : Prop :=
  ∃ entries, j = .object entries ∧ Lists name mayLack holds fields entries

end Lists

section Slot

variable {F V : Type} [DecidableEq F]

/-- The value of a field in a draft: none while the field is due. -/
def slot (due : List F) (f : F) (v : V) : Option V := if f ∈ due then none else some v

variable {due : List F} {f g : F} {v : V}

theorem slot_due (isDue : f ∈ due) : slot due f v = none := if_pos isDue

theorem slot_past (past : f ∉ due) : slot due f v = some v := if_neg past

@[simp] theorem slot_without_self : slot (without due f) f v = some v :=
  slot_past fun mem => (mem_without.1 mem).2 rfl

@[simp] theorem slot_without_ne (other : g ≠ f) : slot (without due f) g v = slot due g v := by
  simp [slot, mem_without, other]

theorem slot_getD {default : V} (usual : f ∈ due → v = default) : (slot due f v).getD default = v := by
  by_cases isDue : f ∈ due
  · rw [slot_due isDue, Option.getD_none, usual isDue]
  · rw [slot_past isDue, Option.getD_some]

end Slot
end Json

open Json (Records without slot slot_due slot_past slot_getD)

namespace Position

/-- The position is within the range of a dump. -/
def Fits (p : Position) : Prop := p.line ≤ Node.maxNat ∧ p.column ≤ Node.maxNat

instance (p : Position) : Decidable p.Fits := inferInstanceAs (Decidable (_ ∧ _))

namespace Field

/-- The name of a field in a dump. -/
def name : Field → String
  | line => "line"
  | column => "column"

/-- The fields, in order. -/
def all : List Field := [line, column]

/-- The number in a field of a position. -/
def value (p : Position) : Field → Json
  | line => .ofNat p.line
  | column => .ofNat p.column

theorem ofName?_name (f : Field) : ofName? f.name = some f := by
  cases f <;> rfl

theorem ofName?_unknown {key : String} (unknown : ∀ f : Field, f.name ≠ key) : ofName? key = none := by
  unfold ofName?
  exact (if_neg (unknown line).symm).trans (if_neg (unknown column).symm)

end Field

/-- The documents of a position. -/
def Dumps (p : Position) : Json → Prop :=
  Records Field.name (fun _ => False) (fun f j => j = f.value p) Field.all

/-- A draft that lacks the fields that are due. -/
def draft (p : Position) (due : List Field) : Draft := ⟨slot due .line p.line, slot due .column p.column⟩

theorem readFields?_known {p : Position} (fits : p.Fits) {due : List Field} {f : Field} {body : List Char}
    (rest : List (List Char × Json)) (isDue : f ∈ due) (named : Json.Quoted.Spells body f.name.toList) :
    readFields? (p.draft due) ((body, f.value p) :: rest) = readFields? (p.draft (without due f)) rest := by
  rw [readFields?, Json.text?_of_spells named]
  simp only [Field.ofName?_name]
  cases f with
  | line => simp [draft, Field.value, slot_due isDue, Json.natUpTo?_ofNat fits.1]
  | column => simp [draft, Field.value, slot_due isDue, Json.natUpTo?_ofNat fits.2]

theorem readFields?_other {d : Draft} {key : String} {body : List Char} (value : Json)
    (rest : List (List Char × Json)) (named : Json.Quoted.Spells body key.toList) (unknown : ∀ f : Field, f.name ≠ key) :
    readFields? d ((body, value) :: rest) = readFields? d rest := by
  rw [readFields?, Json.text?_of_spells named]
  simp only [Field.ofName?_unknown unknown]

/-- Every document of a position is decoded as it. -/
theorem ofJson?_of_dumps {p : Position} {j : Json} (fits : p.Fits) (dumps : p.Dumps j) : ofJson? j = some p := by
  obtain ⟨entries, rfl, lists⟩ := dumps
  obtain ⟨lacking, none_lacks, read⟩ := lists.fold readFields? p.draft (fun _ => rfl)
    (fun rest isDue named held => held ▸ readFields?_known fits rest isDue named)
    (fun value rest named unknown => readFields?_other value rest named unknown)
  have start : p.draft Field.all = ⟨none, none⟩ := rfl
  have full : p.draft lacking = ⟨some p.line, some p.column⟩ := by
    rw [draft, slot_past (none_lacks _), slot_past (none_lacks _)]
  rw [ofJson?, ← start, read, full]

theorem dumps_toJson (p : Position) : p.Dumps p.toJson :=
  ⟨_, rfl, Json.lists_map (by decide) (Field.value p) fun _ => rfl⟩

end Position

/-- The numbers of a node are within the range of a dump. -/
structure NodeInfo.Fits (info : NodeInfo) : Prop where
  start : info.start.Fits
  stop : info.stop.Fits
  indexes : ∀ i ∈ info.indexes, i ≤ Node.maxNat

theorem Dialect.ofName?_name (d : Dialect) : ofName? d.name = some d := by
  cases d <;> rfl

theorem Dialect.ofJson?_of_quotes {d : Dialect} {j : Json} (quotes : j.Quotes d.name) : ofJson? j = some d := by
  cases quotes with
  | text spells => rw [ofJson?, Json.text?_of_spells spells, Option.bind_some, ofName?_name]

namespace Node
namespace Field

theorem ofName?_name (f : Field) : ofName? f.name = some f := by
  cases f <;> rfl

theorem ofName?_unknown {key : String} (unknown : ∀ f : Field, f.name ≠ key) : ofName? key = none := by
  rw [ofName?, List.find?_eq_none]
  intro f _
  simpa using unknown f

/-- A field may be lacking where it has its default. -/
def MayLack (info : NodeInfo) : Field → Prop
  | dialect => info.dialect = .scss
  | indexes => info.indexes = []
  | _ => False

/-- What a field of a dump holds, for a node with the given content. -/
def Holds (info : NodeInfo) (content : Json → Prop) : Field → Json → Prop
  | kind, j => j.Quotes info.kind
  | Field.content, j => content j
  | dialect, j => j.Quotes info.dialect.name
  | start, j => info.start.Dumps j
  | stop, j => info.stop.Dumps j
  | indexes, j => j = .array (info.indexes.map .ofNat)

end Field

/-- The documents of a node that carries `info`. -/
def Records (info : NodeInfo) (content : Json → Prop) : Json → Prop :=
  Json.Records Field.name (Field.MayLack info) (Field.Holds info content) Field.all

mutual

/-- The document is a dump of the tree. -/
def Dumps : Node → Json → Prop
  | leaf info t, j => Records info (Json.Quotes t) j
  | branch info cs, j => Records info (fun content => ∃ items, content = .array items ∧ DumpsAll cs items) j

/-- The documents are dumps of the trees. -/
def DumpsAll : List Node → List Json → Prop
  | [], [] => True
  | n :: ns, j :: js => Dumps n j ∧ DumpsAll ns js
  | _, _ => False

end

/-- A draft that lacks the fields that are due. -/
def draft (info : NodeInfo) (content : Content) (due : List Field) : Draft where
  kind := slot due .kind info.kind
  content := slot due .content content
  dialect := slot due .dialect info.dialect
  start := slot due .start info.start
  stop := slot due .stop info.stop
  indexes := slot due .indexes info.indexes

section Draft

variable {info : NodeInfo} {content : Content} {dumped : Json → Prop} {due : List Field} {f : Field} {value : Json}
  {body : List Char}

theorem put?_of_holds (fits : info.Fits) (isDue : f ∈ due) (held : f.Holds info dumped value) (other : f ≠ .content) :
    (draft info content due).put? f value = some (draft info content (without due f)) := by
  cases f with
  | kind => simp [draft, Draft.put?, slot_due isDue, Json.Quotes.text?_eq held]
  | content => exact absurd rfl other
  | dialect => simp [draft, Draft.put?, slot_due isDue, Dialect.ofJson?_of_quotes held]
  | start => simp [draft, Draft.put?, slot_due isDue, Position.ofJson?_of_dumps fits.start held]
  | stop => simp [draft, Draft.put?, slot_due isDue, Position.ofJson?_of_dumps fits.stop held]
  | indexes =>
    obtain rfl : value = _ := held
    simp [draft, Draft.put?, slot_due isDue, Json.mapM_natUpTo? fits.indexes]

theorem readFields?_known (fits : info.Fits) (decoded : ∀ j, dumped j → contentOfJson? j = some content)
    (rest : List (List Char × Json)) (isDue : f ∈ due) (named : Json.Quoted.Spells body f.name.toList)
    (held : f.Holds info dumped value) :
    readFields? (draft info content due) ((body, value) :: rest) =
      readFields? (draft info content (without due f)) rest := by
  rw [readFields?, Json.text?_of_spells named]
  simp only [Field.ofName?_name]
  by_cases other : f = .content
  · subst other
    have there : (draft info content due).content = none := slot_due isDue
    have after : { draft info content due with content := some content } =
        draft info content (without due .content) := by
      simp [draft]
    simp [there, decoded value held, after]
  · have put := @put?_of_holds _ content _ _ _ _ fits isDue held other
    cases f with
    | content => exact absurd rfl other
    | kind | dialect | start | stop | indexes => simp only [put, Option.bind_some]

theorem readFields?_other {d : Draft} {key : String} (value : Json) (rest : List (List Char × Json))
    (named : Json.Quoted.Spells body key.toList) (unknown : ∀ f : Field, f.name ≠ key) :
    readFields? d ((body, value) :: rest) = readFields? d rest := by
  rw [readFields?, Json.text?_of_spells named]
  simp only [Field.ofName?_unknown unknown]

/-- A draft that lacks only defaults is the node. -/
theorem finish?_draft (lacking : ∀ f ∈ due, f.MayLack info) :
    (draft info content due).finish? = some (ofContent info content) := by
  have kind := slot_past (v := info.kind) (lacking .kind)
  have text := slot_past (v := content) (lacking .content)
  have start := slot_past (v := info.start) (lacking .start)
  have stop := slot_past (v := info.stop) (lacking .stop)
  have dialect := slot_getD (lacking .dialect)
  have indexes := slot_getD (lacking .indexes)
  simp only [Draft.finish?, draft, kind, text, start, stop, dialect, indexes]

/-- A record is decoded as its node, once its content is. -/
theorem ofJson?_of_records {j : Json} (fits : info.Fits) (decoded : ∀ j, dumped j → contentOfJson? j = some content)
    (records : Records info dumped j) : ofJson? j = some (ofContent info content) := by
  obtain ⟨entries, rfl, lists⟩ := records
  obtain ⟨lacking, mayLack, read⟩ := lists.fold readFields? (draft info content) (fun _ => by rw [readFields?])
    (fun rest isDue named held => readFields?_known fits decoded rest isDue named held)
    (fun value rest named unknown => readFields?_other value rest named unknown)
  have start : draft info content Field.all = {} := rfl
  rw [ofJson?, ← start, read, Option.bind_some, finish?_draft mayLack]

end Draft

/-- The numbers of a tree are within the range of a dump. -/
def Fits (n : Node) : Prop := ∀ m ∈ n.preorder, m.info.Fits

mutual

/-- **Every dump of a tree is decoded as the tree**. -/
theorem ofJson?_of_dumps : (n : Node) → ∀ {j : Json}, n.Fits → n.Dumps j → ofJson? j = some n
  | leaf info t, _, fits, dumps => by
    have decoded : ∀ j, Json.Quotes t j → contentOfJson? j = some (.text t) := by
      rintro _ ⟨spells⟩
      rw [contentOfJson?, Json.text?_of_spells spells, Option.map_some]
    exact ofJson?_of_records (fits _ List.mem_cons_self) decoded dumps
  | branch info cs, _, fits, dumps => by
    have below : ∀ m ∈ preorderAll cs, m.info.Fits := fun m mem => fits m (List.mem_cons_of_mem _ mem)
    have decoded : ∀ j, (∃ items, j = .array items ∧ DumpsAll cs items) → contentOfJson? j = some (.children cs) := by
      rintro _ ⟨items, rfl, all⟩
      rw [contentOfJson?, nodesOfJson?_of_dumpsAll cs below all, Option.map_some]
    exact ofJson?_of_records (fits _ List.mem_cons_self) decoded dumps

theorem nodesOfJson?_of_dumpsAll : (ns : List Node) → ∀ {js : List Json}, (∀ m ∈ preorderAll ns, m.info.Fits) →
    DumpsAll ns js → nodesOfJson? js = some ns
  | [], [], _, _ => by rw [nodesOfJson?]
  | n :: ns, j :: js, fits, ⟨first, later⟩ => by
    obtain ⟨here, below⟩ := List.forall_mem_append.1 fits
    rw [nodesOfJson?, ofJson?_of_dumps n here first, Option.bind_some, nodesOfJson?_of_dumpsAll ns below later,
      Option.map_some]
  | [], _ :: _, _, dumps | _ :: _, [], _, dumps => dumps.elim

end
end Node
end SheetLint
