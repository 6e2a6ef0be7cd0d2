import Mathlib.Data.List.TakeWhile
import SheetLint.Text.Line

/-!
# Line ends and empty lines

The lines inside a text are what stands between a `\n` and the next. Such a line is
empty when nothing is on it; a `\r` right before the `\n` is part of the line end. A
text is cut into lines by `exists_closed`, and what the text has inside, what its part
between the first `\n` and the last is, and when this part is nothing but line ends are
read off the lines. So a blank line is seen exactly where the text has an empty line
inside and no other (`hasBlankLine_iff`): one that stands next to a line of spaces is
not seen.
-/

namespace SheetLint.Text
set_option autoImplicit false

/-- Nothing but line ends, one after the other. -/
inductive LineEnds : List Char → Prop where
  | nil : LineEnds []
  | lf {rest : List Char} (more : LineEnds rest) : LineEnds ('\n' :: rest)
  | crlf {rest : List Char} (more : LineEnds rest) : LineEnds ('\r' :: '\n' :: rest)

/-- The line has nothing on it. -/
def EmptyLine (line : List Char) : Prop := line = [] ∨ line = ['\r']

/-- The line is inside the text: it stands between a `\n` and the next. -/
def InnerLine (cs line : List Char) : Prop :=
  '\n' ∉ line ∧ ('\n' :: (line ++ ['\n'])) <:+: cs

/-- Some `\n` of the text is followed by a line end. -/
def HasEmptyLine (cs : List Char) : Prop :=
  ['\n', '\n'] <:+: cs ∨ ['\n', '\r', '\n'] <:+: cs

/-- The text has an empty line inside, and no line inside it has something on it. -/
def OnlyEmptyLines (cs : List Char) : Prop :=
  HasEmptyLine cs ∧ ∀ line, InnerLine cs line → EmptyLine line

theorem hasEmptyLine_iff {cs : List Char} : HasEmptyLine cs ↔ ∃ line, InnerLine cs line ∧ EmptyLine line := by
  constructor
  · rintro (lf | crlf)
    · exact ⟨[], ⟨List.not_mem_nil, lf⟩, Or.inl rfl⟩
    · exact ⟨['\r'], ⟨by decide, crlf⟩, Or.inr rfl⟩
  · rintro ⟨line, ⟨-, inside⟩, rfl | rfl⟩
    · exact Or.inl inside
    · exact Or.inr inside

section LineEnds

theorem isEmptyLine_iff {cs : List Char} : isEmptyLine cs = true ↔ LineEnds cs := by
  constructor
  · intro empty
    unfold isEmptyLine at empty
    fun_induction dropCrlf cs with
    | case1 => exact .nil
    | case2 rest ih => exact .crlf (ih empty)
    | case3 c rest _ ih =>
      by_cases lf : c = '\n'
      · subst lf
        exact .lf (ih empty)
      · simp [lf] at empty
  · intro ends
    induction ends with
    | nil => rfl
    | lf more ih => exact ih
    | crlf more ih => exact ih

/-- A line without `\n` and then a `\n` are a line end where the line is empty. -/
theorem lineEnds_line_iff {line rest : List Char} (free : '\n' ∉ line) :
    LineEnds (line ++ '\n' :: rest) ↔ EmptyLine line ∧ LineEnds rest := by
  constructor
  · intro ends
    rcases line with - | ⟨c, - | ⟨d, line⟩⟩
    · cases ends with
      | lf more => exact ⟨Or.inl rfl, more⟩
    · cases ends with
      | lf more => exact absurd List.mem_cons_self free
      | crlf more => exact ⟨Or.inr rfl, more⟩
    · cases ends with
      | lf more => exact absurd List.mem_cons_self free
      | crlf more => exact absurd (List.mem_cons_of_mem _ List.mem_cons_self) free
  · rintro ⟨rfl | rfl, more⟩
    · exact .lf more
    · exact .crlf more

end LineEnds

section Closed

/-- Lines one after the other, each with a `\n` at its end. -/
def closed (lines : List (List Char)) : List Char := lines.flatMap (· ++ ['\n'])

theorem closed_cons (line : List Char) (lines : List (List Char)) :
    closed (line :: lines) = line ++ '\n' :: closed lines := by
  simp [closed]

/-- Every text is lines that end in it, and then a last one that does not. -/
theorem exists_closed (cs : List Char) :
    ∃ lines last, cs = closed lines ++ last ∧ (∀ line ∈ lines, '\n' ∉ line) ∧ '\n' ∉ last := by
  induction cs with
  | nil => exact ⟨[], [], rfl, by simp, by simp⟩
  | cons c rest ih =>
    obtain ⟨lines, last, rfl, free, open_end⟩ := ih
    by_cases lf : c = '\n'
    · subst lf
      refine ⟨[] :: lines, last, by simp [closed_cons], ?_, open_end⟩
      exact List.forall_mem_cons.2 ⟨List.not_mem_nil, free⟩
    · -- the character is on the first line, which may be the last
      have other : '\n' ≠ c := Ne.symm lf
      cases lines with
      | nil => exact ⟨[], c :: last, rfl, free, by simp [other, open_end]⟩
      | cons line lines =>
        obtain ⟨first, later⟩ := List.forall_mem_cons.1 free
        refine ⟨(c :: line) :: lines, last, by simp [closed_cons], ?_, open_end⟩
        exact List.forall_mem_cons.2 ⟨by simp [other, first], later⟩

theorem exists_snoc_closed (lines : List (List Char)) : ∃ front, '\n' :: closed lines = front ++ ['\n'] := by
  rcases List.eq_nil_or_concat lines with rfl | ⟨init, line, rfl⟩
  · exact ⟨[], rfl⟩
  · exact ⟨'\n' :: (closed init ++ line), by simp [closed]⟩

theorem passed_of_free {front : List Char} (free : '\n' ∉ front) : ∀ c ∈ front, (c != '\n') = true := by
  intro c mem
  rw [bne_iff_ne]
  rintro rfl
  exact free mem

theorem dropWhile_of_free {front rest : List Char} (free : '\n' ∉ front) :
    (front ++ '\n' :: rest).dropWhile (· != '\n') = '\n' :: rest := by
  rw [List.dropWhile_append_of_pos (passed_of_free free)]
  rfl

/-- What is between the first `\n` and the last are the lines inside. -/
theorem betweenLineEnds_closed {first last : List Char} (lines : List (List Char)) (start : '\n' ∉ first)
    (open_end : '\n' ∉ last) : betweenLineEnds (first ++ '\n' :: (closed lines ++ last)) = '\n' :: closed lines := by
  obtain ⟨front, snoc⟩ := exists_snoc_closed lines
  have back : '\n' ∉ last.reverse := by simpa using open_end
  rw [betweenLineEnds, dropWhile_of_free start, ← List.cons_append, snoc, List.append_assoc, List.singleton_append,
    List.reverse_append, List.reverse_cons, List.append_assoc, List.singleton_append, dropWhile_of_free back]
  simp

theorem lineEnds_closed_iff {lines : List (List Char)} (free : ∀ line ∈ lines, '\n' ∉ line) :
    LineEnds (closed lines) ↔ ∀ line ∈ lines, EmptyLine line := by
  induction lines with
  | nil => exact iff_of_true .nil (by simp)
  | cons line lines ih =>
    obtain ⟨first, later⟩ := List.forall_mem_cons.1 free
    rw [closed_cons, lineEnds_line_iff first, ih later, List.forall_mem_cons]

theorem infix_of_free {front rest text : List Char} (free : '\n' ∉ front) :
    ('\n' :: text) <:+: front ++ rest ↔ ('\n' :: text) <:+: rest := by
  induction front with
  | nil => rfl
  | cons c front ih =>
    rw [List.mem_cons, not_or] at free
    rw [List.cons_append, List.infix_cons_iff, List.cons_prefix_cons, ih free.2]
    exact or_iff_right fun same => free.1 same.1

theorem line_prefix_iff {line first rest : List Char} (free : '\n' ∉ line) (start : '\n' ∉ first) :
    (line ++ ['\n']) <+: first ++ '\n' :: rest ↔ line = first := by
  constructor
  · induction line generalizing first with
    | nil =>
      cases first with
      | nil => exact fun _ => rfl
      | cons d first =>
        intro front
        have same := (List.cons_prefix_cons.1 front).1
        exact absurd (same ▸ List.mem_cons_self) start
    | cons c line ih =>
      intro front
      cases first with
      | nil =>
        have same := (List.cons_prefix_cons.1 front).1
        exact absurd (same ▸ List.mem_cons_self) free
      | cons d first =>
        obtain ⟨same, more⟩ := List.cons_prefix_cons.1 front
        rw [same, ih (fun mem => free (.tail _ mem)) (fun mem => start (.tail _ mem)) more]
  · rintro rfl
    exact ⟨rest, by simp⟩

/-- The lines inside a text are those that end in it, without the first. -/
theorem innerLine_closed_iff {first last line : List Char} {lines : List (List Char)} (start : '\n' ∉ first)
    (free : ∀ l ∈ lines, '\n' ∉ l) (open_end : '\n' ∉ last) :
    InnerLine (first ++ '\n' :: (closed lines ++ last)) line ↔ line ∈ lines := by
  rw [InnerLine, infix_of_free start]
  induction lines with
  | nil =>
    refine iff_of_false ?_ List.not_mem_nil
    rintro ⟨-, inside⟩
    have count := inside.sublist.count_le '\n'
    simp [closed, List.count_eq_zero_of_not_mem open_end] at count
  | cons l lines ih =>
    obtain ⟨here, later⟩ := List.forall_mem_cons.1 free
    rw [closed_cons, List.append_assoc, List.cons_append, List.infix_cons_iff, infix_of_free here,
      List.cons_prefix_cons, and_iff_right rfl, List.mem_cons, ← ih later, and_or_left]
    refine or_congr_left ⟨?_, ?_⟩
    · rintro ⟨plain, front⟩
      exact (line_prefix_iff plain here).1 front
    · rintro rfl
      exact ⟨here, (line_prefix_iff here here).2 rfl⟩

/-- A blank line is seen where there is a line inside the text and all of them are empty. -/
theorem hasBlankLine_closed_iff {first last : List Char} {lines : List (List Char)} (start : '\n' ∉ first)
    (free : ∀ l ∈ lines, '\n' ∉ l) (open_end : '\n' ∉ last) :
    hasBlankLine (first ++ '\n' :: (closed lines ++ last)) = true ↔ lines ≠ [] ∧ ∀ l ∈ lines, EmptyLine l := by
  have longer : 1 < ('\n' :: closed lines).length ↔ lines ≠ [] := by
    cases lines with
    | nil => simp [closed]
    | cons l lines =>
      simp only [closed_cons, List.length_cons, List.length_append, ne_eq, reduceCtorEq, not_false_eq_true, iff_true]
      omega
  have ends : LineEnds ('\n' :: closed lines) ↔ ∀ l ∈ lines, EmptyLine l := by
    have line : LineEnds ('\n' :: closed lines) ↔ EmptyLine [] ∧ LineEnds (closed lines) :=
      lineEnds_line_iff List.not_mem_nil
    have nothing : EmptyLine [] := Or.inl rfl
    rw [line, lineEnds_closed_iff free, and_iff_right nothing]
  rw [hasBlankLine, betweenLineEnds_closed lines start open_end, Bool.and_eq_true, decide_eq_true_eq, longer,
    isEmptyLine_iff, ends]

end Closed

/-- A blank line is seen exactly where the text has empty lines inside and no others. -/
theorem hasBlankLine_iff {cs : List Char} : hasBlankLine cs = true ↔ OnlyEmptyLines cs := by
  rw [OnlyEmptyLines, hasEmptyLine_iff]
  obtain ⟨lines, last, rfl, free, open_end⟩ := exists_closed cs
  cases lines with
  | nil =>
    -- a text of one line has no line inside
    have one : closed [] ++ last = last := rfl
    refine iff_of_false ?_ ?_
    · have none : last.dropWhile (· != '\n') = [] := List.dropWhile_eq_nil_iff.2 (passed_of_free open_end)
      simp [one, hasBlankLine, betweenLineEnds, none]
    · rintro ⟨⟨line, ⟨-, inside⟩, -⟩, -⟩
      exact open_end (inside.subset List.mem_cons_self)
  | cons first lines =>
    obtain ⟨start, later⟩ := List.forall_mem_cons.1 free
    rw [closed_cons, List.append_assoc, List.cons_append, hasBlankLine_closed_iff start later open_end]
    simp only [innerLine_closed_iff start later open_end]
    refine and_congr_left fun all => ?_
    constructor
    · intro some
      obtain ⟨line, mem⟩ := List.exists_mem_of_ne_nil lines some
      exact ⟨line, mem, all line mem⟩
    · rintro ⟨line, mem, -⟩
      exact List.ne_nil_of_mem mem

end SheetLint.Text
