import Mathlib.Data.List.Basic
import Mathlib.Data.List.TakeWhile
import SheetLint.Text.Blank
import SheetLint.Text.Pieces

/-!
# Trimming and cutting

What is left of a text without the blanks at its ends, and what its pieces between separators are, said
without the loops that find them: `Trims` by the blanks around a body that has none at its ends, `Cuts`
by pieces that have no separator and give the text back when they are joined. Each determines its result,
so trimming and cutting are known by them (`trim_eq_iff`, `pieces_of_cuts`).
-/

namespace SheetLint.Text
set_option autoImplicit false

/-- There is nothing but blanks. -/
def Blank (cs : List Char) : Prop := ∀ c ∈ cs, isBlank c = true

/-- The text neither starts nor ends with a blank. -/
structure Tight (cs : List Char) : Prop where
  starts : ∀ c ∈ cs.head?, isBlank c = false
  ends : ∀ c ∈ cs.getLast?, isBlank c = false

instance (cs : List Char) : Decidable (Blank cs) := decidable_of_iff (cs.all isBlank = true) List.all_eq_true

theorem tight_iff {cs : List Char} :
    Tight cs ↔ cs.head?.all (!isBlank ·) = true ∧ cs.getLast?.all (!isBlank ·) = true := by
  simp only [Option.all_eq_true, Bool.not_eq_true']
  exact ⟨fun tight => ⟨tight.starts, tight.ends⟩, fun h => ⟨h.1, h.2⟩⟩

instance (cs : List Char) : Decidable (Tight cs) := decidable_of_iff _ tight_iff.symm

/-- The text is the body with blanks around it, all of them. -/
structure Trims (text body : List Char) : Prop where
  around : ∃ before after, Blank before ∧ Blank after ∧ text = before ++ body ++ after
  tight : Tight body

/-- The text is the pieces with a separator between each two, and all separators are such. -/
structure Cuts (separator : Char) (text : List Char) (pieces : List (List Char)) : Prop where
  some : pieces ≠ []
  free : ∀ p ∈ pieces, separator ∉ p
  joined : [separator].intercalate pieces = text

section Trim

variable {text body before after : List Char}

theorem Blank.reverse (blank : Blank body) : Blank body.reverse := fun c mem => blank c (List.mem_reverse.1 mem)

theorem Tight.reverse (tight : Tight body) : Tight body.reverse where
  starts c mem := tight.ends c (by rwa [List.head?_reverse] at mem)
  ends c mem := tight.starts c (by rwa [List.getLast?_reverse] at mem)

theorem dropWhile_isBlank (blank : Blank before) (starts : ∀ c ∈ body.head?, isBlank c = false) :
    (before ++ body).dropWhile isBlank = body := by
  rw [List.dropWhile_append_of_pos blank]
  cases body with
  | nil => rfl
  | cons c rest => rw [List.dropWhile_cons, if_neg (by rw [starts c rfl]; exact Bool.false_ne_true)]

theorem starts_dropWhile (cs : List Char) : ∀ c ∈ (cs.dropWhile isBlank).head?, isBlank c = false := by
  intro c mem
  have first := List.head?_dropWhile_not isBlank cs
  rw [Option.mem_def.1 mem] at first
  exact first

theorem trim_of_trims (trims : Trims text body) : trim text = body := by
  obtain ⟨⟨before, after, blank, blank', rfl⟩, tight⟩ := trims
  rw [trim, trimRight, List.append_assoc]
  cases body with
  | nil =>
    have rest : Blank (before ++ after) := fun c mem => (List.mem_append.1 mem).elim (blank c) (blank' c)
    rw [List.nil_append, List.dropWhile_eq_nil_iff.2 rest]
    rfl
  | cons c body =>
    have left : (before ++ (c :: body ++ after)).dropWhile isBlank = c :: body ++ after :=
      dropWhile_isBlank blank tight.starts
    rw [left, List.reverse_append, dropWhile_isBlank blank'.reverse tight.reverse.starts, List.reverse_reverse]

theorem exists_trimRight (cs : List Char) : ∃ after, Blank after ∧ cs = trimRight cs ++ after := by
  refine ⟨(cs.reverse.takeWhile isBlank).reverse, Blank.reverse fun c mem => List.mem_takeWhile_imp mem, ?_⟩
  rw [trimRight, ← List.reverse_append, List.takeWhile_append_dropWhile, List.reverse_reverse]

theorem trims_trim (text : List Char) : Trims text (trim text) := by
  obtain ⟨after, blank, cut⟩ := exists_trimRight (text.dropWhile isBlank)
  refine ⟨⟨text.takeWhile isBlank, after, fun c mem => List.mem_takeWhile_imp mem, blank, ?_⟩, ?_, ?_⟩
  · rw [List.append_assoc, trim, ← cut, List.takeWhile_append_dropWhile]
  · intro c mem
    apply starts_dropWhile text c
    rw [trim] at mem
    rw [cut, List.head?_append, Option.mem_def.1 mem]
    rfl
  · intro c mem
    rw [trim, trimRight, List.getLast?_reverse] at mem
    exact starts_dropWhile _ c mem

/-- **Trimming takes off all blanks at the ends, and nothing else.** -/
theorem trim_eq_iff : trim text = body ↔ Trims text body := by
  refine ⟨fun same => ?_, trim_of_trims⟩
  rw [← same]
  exact trims_trim text

end Trim

theorem not_mem_of_mem_pieces {separator : Char} {text piece : List Char} (mem : piece ∈ pieces separator text) :
    separator ∉ piece := by
  induction text generalizing piece with
  | nil =>
    rw [List.mem_singleton.1 mem]
    exact List.not_mem_nil
  | cons c rest ih =>
    obtain ⟨first, more, cut⟩ := List.exists_cons_of_ne_nil (pieces_ne_nil separator rest)
    rw [cut] at ih
    by_cases here : c = separator
    · rw [pieces, if_pos here, cut] at mem
      rcases List.mem_cons.1 mem with rfl | mem
      · exact List.not_mem_nil
      · exact ih mem
    · simp only [pieces, if_neg here, cut] at mem
      rcases List.mem_cons.1 mem with rfl | mem
      · intro inside
        rcases List.mem_cons.1 inside with same | inside
        · exact here same.symm
        · exact ih (.head _) inside
      · exact ih (.tail _ mem)

theorem cuts_pieces (separator : Char) (text : List Char) : Cuts separator text (pieces separator text) := by
  refine ⟨pieces_ne_nil separator text, ?_, ?_⟩
  · intro p mem
    exact not_mem_of_mem_pieces mem
  · rw [pieces_eq_splitOn, List.intercalate_splitOn]

theorem pieces_of_cuts {separator : Char} {text : List Char} {ps : List (List Char)} (cuts : Cuts separator text ps) :
    pieces separator text = ps := by
  rw [← cuts.joined, pieces_eq_splitOn, List.splitOn_intercalate separator cuts.free cuts.some]

end SheetLint.Text
