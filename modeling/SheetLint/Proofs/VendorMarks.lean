import Mathlib.Data.List.Forall2
import SheetLint.Proofs.CustomOrder

/-!
# Vendor marks and lists

A list ranks a property by its canonical name, so a vendor mark in front of a name changes no rank
(`canonical_mark_append`): no mark is the start of another, and the name that is left is not empty.
Two trees that differ by such marks are followed side by side. At each child of a block the ranks
and the highest rank so far are the same, so the same declarations are misplaced, and what is said
of them differs in the spelling of the names alone (`remark?_of_marked`). A declaration's shape
counts its children and not the letters of its name, so the ledger keeps the same of them.
-/

namespace SheetLint
set_option autoImplicit false

namespace Text

/-- No vendor mark is the start of another. -/
theorem vendorMarks_apart :
    ∀ mark ∈ vendorMarks, ∀ other ∈ vendorMarks, other.toList <+: mark.toList → other = mark := by
  decide

theorem commonName_mark_append {mark : String} (known : mark ∈ vendorMarks) {name : List Char} (named : name ≠ []) :
    commonName (mark.toList ++ name) = name := by
  have found : vendorMarks.findSome? (fun m => m.toList.isPrefixOf? (mark.toList ++ name)) = some name := by
    cases search : vendorMarks.findSome? (fun m => m.toList.isPrefixOf? (mark.toList ++ name)) with
    | none =>
      have missed := List.findSome?_eq_none_iff.1 search mark known
      rw [List.isPrefixOf?_eq_some_iff_append_eq.2 rfl] at missed
      cases missed
    | some rest =>
      obtain ⟨other, mem, cut⟩ := List.exists_of_findSome?_eq_some search
      have split := List.isPrefixOf?_eq_some_iff_append_eq.1 cut
      have same : other = mark := by
        rcases List.append_eq_append_iff.1 split with ⟨more, longer, -⟩ | ⟨more, longer, -⟩
        · exact vendorMarks_apart mark known other mem ⟨more, longer.symm⟩
        · exact (vendorMarks_apart other mem mark known ⟨more, longer.symm⟩).symm
      rw [same] at split
      rw [List.append_cancel_left split]
  obtain ⟨c, rest, rfl⟩ := List.exists_cons_of_ne_nil named
  rw [commonName, found]

end Text

namespace Order

theorem canonical_mark_append {mark property : String} (known : mark ∈ Text.vendorMarks) (named : property ≠ "") :
    canonical (mark ++ property) = property := by
  have letters : property.toList ≠ [] := fun none => named (String.toList_eq_nil_iff.1 none)
  rw [canonical, String.toList_append, Text.commonName_mark_append known letters, String.ofList_toList]

/-- A list ranks properties of one canonical name alike. -/
theorem Policy.rank?_of_canonical {policy : Policy} (byList : policy ≠ .alphabetical) {p q : String}
    (same : canonical p = canonical q) : policy.rank? p = policy.rank? q := by
  have place (entries : List Entry) : place? entries p = place? entries q :=
    congrArg (fun name => (Record.search? entries "name" name).map Rank.index) same
  cases policy with
  | alphabetical => exact absurd rfl byList
  | preset p => exact place p.entries
  | custom entries => exact place entries

end Order

namespace Node

mutual

/-- The second tree is the first with a vendor mark put in front of some of its identifiers, each one a name of its
own that carries no mark yet. -/
inductive Marked : Node → Node → Prop where
  | kept (i : NodeInfo) (t : String) : Marked (leaf i t) (leaf i t)
  | mark {i : NodeInfo} {name mark : String} (ident : i.kind = "ident") (named : name ≠ "")
    (plain : Order.canonical name = name) (known : mark ∈ Text.vendorMarks) :
    Marked (leaf i name) (leaf i (mark ++ name))
  | branch {i : NodeInfo} {cs cs' : List Node} (children : MarkedAll cs cs') : Marked (branch i cs) (branch i cs')

/-- Likewise for several trees. -/
inductive MarkedAll : List Node → List Node → Prop where
  | nil : MarkedAll [] []
  | cons {n n' : Node} {ns ns' : List Node} (first : Marked n n') (rest : MarkedAll ns ns') :
    MarkedAll (n :: ns) (n' :: ns')

end

theorem MarkedAll.forall₂ {ns ns' : List Node} (marked : MarkedAll ns ns') : List.Forall₂ Marked ns ns' := by
  induction ns generalizing ns' with
  | nil =>
    cases marked
    exact .nil
  | cons n ns ih =>
    cases marked with
    | cons first rest => exact .cons first (ih rest)

mutual

theorem Marked.preorder : {n n' : Node} → Marked n n' → List.Forall₂ Marked n.preorder n'.preorder
  | _, _, .kept i t => .cons (.kept i t) .nil
  | _, _, .mark ident named plain known => .cons (.mark ident named plain known) .nil
  | _, _, .branch children => .cons (.branch children) children.preorderAll

theorem MarkedAll.preorderAll : {ns ns' : List Node} → MarkedAll ns ns' →
    List.Forall₂ Marked (preorderAll ns) (preorderAll ns')
  | _, _, .nil => .nil
  | _, _, .cons first rest => List.rel_append first.preorder rest.preorderAll

end

namespace Marked

variable {n n' : Node} (marked : Marked n n')
include marked

theorem info : n.info = n'.info := by
  cases marked <;> rfl

theorem isOf (kind : String) : n.isOf kind = n'.isOf kind := by
  rw [Node.isOf, Node.kind, marked.info]
  rfl

theorem children : List.Forall₂ Marked n.children n'.children := by
  cases marked with
  | kept i t => exact .nil
  | mark => exact .nil
  | branch children => exact children.forall₂

theorem first? (kind : String) : Option.Rel Marked (n.first? kind) (n'.first? kind) := by
  have search {ns ns' : List Node} (all : List.Forall₂ Marked ns ns') :
      Option.Rel Marked (ns.find? (·.isOf kind)) (ns'.find? (·.isOf kind)) := by
    induction all with
    | nil => exact .none
    | cons first _ ih =>
      rw [List.find?_cons, List.find?_cons, ← first.isOf kind]
      split
      · exact .some first
      · exact ih
  exact search marked.children

/-- Identifiers have the same canonical name. -/
theorem text? : Option.Rel (fun p q => Order.canonical p = Order.canonical q) n.text? n'.text? := by
  cases marked with
  | kept i t => exact .some rfl
  | mark _ named plain known => exact .some (plain.trans (Order.canonical_mark_append known named).symm)
  | branch => exact .none

/-- The length of a name is not part of a declaration's shape. -/
theorem shape (declaration : n.kind = "declaration") : SheetLint.shape n = SheetLint.shape n' := by
  have length : n.contentLength = n'.contentLength := by
    cases marked with
    | kept i t => rfl
    | mark ident => exact absurd (ident.symm.trans declaration) (by decide)
    | branch children => exact children.forall₂.length_eq
  show (⟨n.info.kind, n.info.start.line, n.info.stop.line, n.contentLength⟩ : Shape) = _
  rw [length, marked.info]
  rfl

end Marked
end Node

theorem rel_bind {α β γ δ : Type} {R : α → β → Prop} {S : γ → δ → Prop} {a : Option α} {b : Option β} {f : α → Option γ}
    {g : β → Option δ} (outer : Option.Rel R a b) (inner : ∀ x y, R x y → Option.Rel S (f x) (g y)) :
    Option.Rel S (a.bind f) (b.bind g) := by
  cases outer with
  | none => exact .none
  | some related => exact inner _ _ related

namespace Detection

/-- The messages put two properties in order, and spell each with any vendor mark or none. -/
def SameWords (m m' : String) : Prop :=
  ∃ p q r t, Order.canonical p = Order.canonical r ∧ Order.canonical q = Order.canonical t ∧
    m = s!"Expected `{p}` to come before `{q}`" ∧ m' = s!"Expected `{r}` to come before `{t}`"

/-- The detections are the same, but for how a message may spell the names of properties. -/
structure SameButSpelling (d d' : Detection) : Prop where
  position : d.position = d'.position
  rule : d.rule = d'.rule
  severity : d.severity = d'.severity
  shape : d.shape = d'.shape
  message : d.message = d'.message ∨ SameWords d.message d'.message

theorem SameButSpelling.refl (d : Detection) : SameButSpelling d d := ⟨rfl, rfl, rfl, rfl, .inl rfl⟩

end Detection

/-- A ledger that takes things of one shape side by side keeps them side by side. -/
theorem Ledger.newTo_forall₂ {α : Type} [Shaped α] {R : α → α → Prop} (shapes : ∀ x y, R x y → shape x = shape y)
    {xs ys : List α} (all : List.Forall₂ R xs ys) (seen : List Shape) :
    List.Forall₂ R (newTo seen xs) (newTo seen ys) := by
  induction all generalizing seen with
  | nil => exact .nil
  | cons first _ ih =>
    rw [newTo, newTo, ← shapes _ _ first]
    split
    · exact ih seen
    · exact .cons first (ih _)

/-- The sites are of one place in trees that differ by vendor marks. -/
structure Site.Marked (s s' : Site) : Prop where
  before : List.Forall₂ Node.Marked s.before s'.before
  node : Node.Marked s.node s'.node

theorem Site.following_marked {before before' nodes nodes' : List Node}
    (earlier : List.Forall₂ Node.Marked before before') (all : List.Forall₂ Node.Marked nodes nodes') :
    List.Forall₂ Site.Marked (following before nodes) (following before' nodes') := by
  induction all generalizing before before' with
  | nil => exact .nil
  | cons first _ ih => exact .cons ⟨earlier, first⟩ (ih (List.rel_append earlier (.cons first .nil)))

namespace Rule.DeclarationOrder

/-- The same rank, of properties with one canonical name. -/
def SameRank (r r' : Order.Rank × String) : Prop := r.1 = r'.1 ∧ Order.canonical r.2 = Order.canonical r'.2

theorem property?_of_marked {n n' : Node} (marked : n.Marked n') :
    Option.Rel (fun p q => Order.canonical p = Order.canonical q) (property? n) (property? n') := by
  have idents : Option.Rel Node.Marked ((n.first? "property").bind (·.first? "ident"))
      ((n'.first? "property").bind (·.first? "ident")) :=
    rel_bind (marked.first? "property") fun _ _ inside => inside.first? "ident"
  exact rel_bind idents fun _ _ inside => inside.text?

section Policy

variable {policy : Order.Policy} (byList : policy ≠ .alphabetical)
include byList

theorem ranked?_of_marked {n n' : Node} (marked : n.Marked n') :
    Option.Rel SameRank (ranked? policy n) (ranked? policy n') := by
  rw [ranked?, ranked?, marked.isOf]
  split
  · refine rel_bind (property?_of_marked marked) fun p q same => ?_
    rw [Order.Policy.rank?_of_canonical byList same]
    cases policy.rank? q with
    | none => exact .none
    | some rank => exact .some ⟨rfl, same⟩
  · exact .none

/-- One more child keeps the highest rank the same. -/
theorem raise_of_marked {n n' : Node} (marked : n.Marked n') {top top' : Option (Order.Rank × String)}
    (tops : Option.Rel SameRank top top') : Option.Rel SameRank (raise policy top n) (raise policy top' n') := by
  have ranks := ranked?_of_marked byList marked
  unfold raise
  generalize ranked? policy n = r at ranks
  generalize ranked? policy n' = r' at ranks
  cases ranks with
  | none => exact tops
  | some same =>
    cases tops with
    | none => exact .some same
    | some equal =>
      dsimp only
      rw [same.1, equal.1]
      split
      · exact .some equal
      · exact .some same

theorem highest_of_marked {before before' : List Node} (all : List.Forall₂ Node.Marked before before') :
    Option.Rel SameRank (highest policy before) (highest policy before') := by
  have run {top top' : Option (Order.Rank × String)} (tops : Option.Rel SameRank top top') :
      Option.Rel SameRank (before.foldl (raise policy) top) (before'.foldl (raise policy) top') := by
    induction all generalizing top top' with
    | nil => exact tops
    | cons first _ ih => exact ih (raise_of_marked byList first tops)
  exact run .none

theorem remark?_of_marked {s s' : Site} (marked : s.Marked s') :
    Option.Rel Detection.SameWords (remark? policy s) (remark? policy s') := by
  have ranks := ranked?_of_marked byList marked.node
  have tops := highest_of_marked byList marked.before
  unfold remark?
  generalize ranked? policy s.node = r at ranks
  generalize ranked? policy s'.node = r' at ranks
  generalize highest policy s.before = top at tops
  generalize highest policy s'.before = top' at tops
  cases ranks with
  | none => exact .none
  | some same =>
    cases tops with
    | none => exact .none
    | some equal =>
      dsimp only
      rw [same.1, equal.1]
      split
      · exact .some ⟨_, _, _, _, same.2, equal.2, rfl, rfl⟩
      · exact .none

/-- At sites of one place the rule reports the same, but for the spelling of the names. -/
theorem detectionAt?_of_marked {s s' : Site} (marked : s.Marked s') (severity : Severity) :
    Option.Rel Detection.SameButSpelling ((⟨.declarationOrder policy, severity⟩ : Builtin).detectionAt? s)
      ((⟨.declarationOrder policy, severity⟩ : Builtin).detectionAt? s') := by
  have words := remark?_of_marked byList marked
  rw [detectionAt?_declarationOrder, detectionAt?_declarationOrder]
  generalize at_s : remark? policy s = said at words
  generalize remark? policy s' = said' at words
  cases words with
  | none => exact .none
  | some same =>
    obtain ⟨rank, property, top, latest, ranks, -⟩ := remark?_eq_some_iff.1 at_s
    have start : s.node.start = s'.node.start := congrArg NodeInfo.start marked.node.info
    exact .some ⟨start, rfl, rfl, marked.node.shape ranks.declaration, .inr same⟩

theorem remarks_of_marked {block block' : Node} (marked : block.Marked block') (severity : Severity) :
    List.Forall₂ Detection.SameButSpelling
      ((remarks policy block).map fun o => .ofNode name severity o.1.node o.2)
      ((remarks policy block').map fun o => .ofNode name severity o.1.node o.2) := by
  rw [← filterMap_detectionAt?_below, ← filterMap_detectionAt?_below]
  have sites : List.Forall₂ Site.Marked (Site.below block) (Site.below block') :=
    Site.following_marked .nil marked.children
  exact List.rel_filterMap (R := Site.Marked) (fun _ _ same => detectionAt?_of_marked byList same severity) sites

end Policy

/-- **A vendor mark never changes what a list flags.** Let a policy be a preset or a list of names, and let one tree
come from another by vendor marks put in front of identifiers, such as the properties of declarations, that carry none.
From the same ledger the rule leaves on both trees the same detections in the same order: the position, the severity and
the shape of each are the same, and its message differs at most in how it spells the two names. -/
theorem marks_change_no_flags {policy : Order.Policy} (byList : policy ≠ .alphabetical) {tree tree' : Node}
    (marked : tree.Marked tree') (severity : Severity) (context : FileContext) (ledger : Ledger Detection) :
    List.Forall₂ Detection.SameButSpelling
      (((rule policy).withSeverity severity).detect context tree ledger).ledger.entries
      (((rule policy).withSeverity severity).detect context tree' ledger).ledger.entries := by
  have blocks : List.Forall₂ Node.Marked (tree.descendants.filter (·.isOf "block"))
      (tree'.descendants.filter (·.isOf "block")) := by
    rw [Node.descendants_eq_preorder, Node.descendants_eq_preorder]
    exact List.rel_filter (fun n n' same => by simp only [same.isOf]) marked.preorder
  have submitted := List.rel_flatMap blocks fun block block' same => remarks_of_marked byList same severity
  rw [detect_eq_addAll, detect_eq_addAll, Ledger.addAll_entries, Ledger.addAll_entries]
  refine List.rel_append (List.forall₂_same.2 fun d _ => .refl d) ?_
  exact Ledger.newTo_forall₂ (fun d d' same => same.shape) submitted _

/-- Marks of two vendors, one on the name that is flagged and one on the name it should come before. -/
theorem marks_change_no_flags_sample :
    (Order.Policy.preset .recess ≠ .alphabetical) ∧
    (sampleBlock ["color", "hyphens", "width"]).Marked
      (sampleBlock ["-moz-" ++ "color", "hyphens", "-webkit-" ++ "width"]) ∧
    (((rule (.preset .recess)).withSeverity .error).detect default
      (sampleBlock ["color", "hyphens", "width"]) .empty).ledger.entries.length = 2 ∧
    List.Forall₂ Detection.SameButSpelling
      (((rule (.preset .recess)).withSeverity .error).detect default
        (sampleBlock ["color", "hyphens", "width"]) .empty).ledger.entries
      (((rule (.preset .recess)).withSeverity .error).detect default
        (sampleBlock ["-moz-" ++ "color", "hyphens", "-webkit-" ++ "width"]) .empty).ledger.entries := by
  have byList : Order.Policy.preset .recess ≠ .alphabetical := by decide
  have declares (line : Nat) {p q : String}
      (same : p = q ∨ p ≠ "" ∧ Order.canonical p = p ∧ ∃ mark ∈ Text.vendorMarks, q = mark ++ p) :
      (sampleDeclaration line p).Marked (sampleDeclaration line q) := by
    refine .branch (.cons (.branch (.cons ?_ .nil)) .nil)
    obtain rfl | ⟨named, plain, mark, known, rfl⟩ := same
    · exact .kept _ _
    · exact .mark rfl named plain known
  have marked : (sampleBlock ["color", "hyphens", "width"]).Marked
      (sampleBlock ["-moz-" ++ "color", "hyphens", "-webkit-" ++ "width"]) := by
    refine .branch (.cons (declares 2 ?_) (.cons (declares 3 (.inl rfl)) (.cons (declares 4 ?_) .nil)))
    · exact .inr ⟨by decide, by decide +kernel, "-moz-", by decide, rfl⟩
    · exact .inr ⟨by decide, by decide +kernel, "-webkit-", by decide, rfl⟩
  refine ⟨byList, marked, ?_, marks_change_no_flags byList marked .error default .empty⟩
  rw [detect_eq_addAll, Node.descendants_eq_preorder]
  decide +kernel

end Rule.DeclarationOrder
end SheetLint
