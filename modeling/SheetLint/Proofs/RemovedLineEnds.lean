import SheetLint.Proofs.LineEnds

/-!
# Texts that removing the line ends leaves empty

Removing a text everywhere from another goes by its occurrences: the leftmost is taken out,
then the leftmost of what follows it, and so on to the end (`Removes`). A scan from the left
that skips the needle where it stands and keeps any other character does this
(`Scans.removes_iff`), and both removals of `isEmptyLine` are such scans. The second works
on what the first has left, where characters stand side by side that were apart. The `\r` of
a `\r\n` that comes about so was followed by something else in the text: the first removal
keeps it (`dropCrlf_stray`), and so does the second, which takes out `\n` alone.
-/

namespace SheetLint.Text
set_option autoImplicit false

/-- Put after `front`, the needle stands nowhere further to the left. -/
def Leftmost (needle front : List Char) : Prop := ¬ needle <:+: (front ++ needle).dropLast

/-- Taking every occurrence of the needle out of a text, from the left and without overlaps, leaves the second
text. -/
inductive Removes (needle : List Char) : List Char → List Char → Prop where
  | absent {cs : List Char} (free : ¬ needle <:+: cs) : Removes needle cs cs
  | found {front rest left : List Char} (leftmost : Leftmost needle front) (more : Removes needle rest left) :
    Removes needle (front ++ (needle ++ rest)) (front ++ left)

section Scan

variable {needle : List Char} (proper : needle ≠ [])
include proper

theorem leftmost_nil : Leftmost needle [] := by
  intro inside
  have fits := inside.length_le
  have some := List.length_pos_iff.2 proper
  rw [List.nil_append, List.length_dropLast] at fits
  omega

/-- With one more character in front, the needle must not stand at that character either. -/
theorem leftmost_cons_iff {c : Char} {front : List Char} (rest : List Char) :
    Leftmost needle (c :: front) ↔ ¬ needle <+: c :: (front ++ (needle ++ rest)) ∧ Leftmost needle front := by
  have longer : front ++ needle ≠ [] := by simp [proper]
  have short : c :: (front ++ needle).dropLast <+: c :: (front ++ (needle ++ rest)) := by
    rw [List.cons_prefix_cons, ← List.append_assoc]
    exact ⟨rfl, (List.dropLast_prefix _).trans (List.prefix_append _ _)⟩
  have fits : needle.length ≤ (c :: (front ++ needle).dropLast).length := by
    rw [List.length_cons, List.length_dropLast, List.length_append]
    omega
  have starts : needle <+: c :: (front ++ needle).dropLast ↔ needle <+: c :: (front ++ (needle ++ rest)) :=
    ⟨fun here => here.trans short, fun here => List.prefix_of_prefix_length_le here short fits⟩
  rw [Leftmost, List.cons_append, List.dropLast_cons_of_ne_nil longer, List.infix_cons_iff, not_or, starts, Leftmost]

namespace Removes

theorem skip {rest left : List Char} (more : Removes needle rest left) : Removes needle (needle ++ rest) left :=
  .found (leftmost_nil proper) more

theorem keep {c : Char} {rest left : List Char} (elsewhere : ¬ needle <+: c :: rest)
    (more : Removes needle rest left) : Removes needle (c :: rest) (c :: left) := by
  cases more with
  | absent free =>
    refine .absent ?_
    rw [List.infix_cons_iff, not_or]
    exact ⟨elsewhere, free⟩
  | @found front rest left leftmost more =>
    have leftmost' : Leftmost needle (c :: front) := (leftmost_cons_iff proper rest).2 ⟨elsewhere, leftmost⟩
    exact .found leftmost' more

end Removes

end Scan

/-- The scan skips the needle where it stands and keeps any other character. -/
structure Scans (needle : List Char) (scan : List Char → List Char) : Prop where
  proper : needle ≠ []
  nil : scan [] = []
  skip (rest : List Char) : scan (needle ++ rest) = scan rest
  keep {c : Char} {rest : List Char} (elsewhere : ¬ needle <+: c :: rest) : scan (c :: rest) = c :: scan rest

namespace Scans

variable {needle : List Char} {scan : List Char → List Char} (scans : Scans needle scan)
include scans

theorem of_absent {cs : List Char} (free : ¬ needle <:+: cs) : scan cs = cs := by
  induction cs with
  | nil => exact scans.nil
  | cons c cs ih =>
    rw [List.infix_cons_iff, not_or] at free
    rw [scans.keep free.1, ih free.2]

theorem of_leftmost {front : List Char} (rest : List Char) (leftmost : Leftmost needle front) :
    scan (front ++ (needle ++ rest)) = front ++ scan rest := by
  induction front with
  | nil => exact scans.skip rest
  | cons c front ih =>
    obtain ⟨elsewhere, later⟩ := (leftmost_cons_iff scans.proper rest).1 leftmost
    rw [List.cons_append, List.cons_append, scans.keep elsewhere, ih later]

theorem removes (cs : List Char) : Removes needle cs (scan cs) := by
  -- the needle takes several characters at once, so the induction is on the length
  induction size : cs.length using Nat.strongRecOn generalizing cs with
  | ind n ih =>
    subst size
    by_cases here : needle <+: cs
    · obtain ⟨rest, rfl⟩ := here
      have some := List.length_pos_iff.2 scans.proper
      have shorter : rest.length < (needle ++ rest).length := by simp [some]
      rw [scans.skip]
      exact .skip scans.proper (ih _ shorter rest rfl)
    · cases cs with
      | nil =>
        have free : ¬ needle <:+: [] := fun inside => scans.proper (List.infix_nil.1 inside)
        rw [scans.nil]
        exact .absent free
      | cons c rest =>
        rw [scans.keep here]
        exact .keep scans.proper here (ih _ (Nat.lt_succ_self _) rest rfl)

/-- Such a scan removes the needle, and nothing else comes of removing it. -/
theorem removes_iff {cs left : List Char} : Removes needle cs left ↔ left = scan cs := by
  constructor
  · intro removes
    induction removes with
    | absent free => exact (scans.of_absent free).symm
    | found leftmost _ ih => rw [scans.of_leftmost _ leftmost, ih]
  · rintro rfl
    exact scans.removes cs

end Scans

section LineEnds

theorem dropCrlf_cons {c : Char} {rest : List Char} (elsewhere : ¬ ['\r', '\n'] <+: c :: rest) :
    dropCrlf (c :: rest) = c :: dropCrlf rest := by
  rw [dropCrlf]
  rintro more rfl rfl
  exact elsewhere ⟨more, rfl⟩

theorem scans_dropCrlf : Scans ['\r', '\n'] dropCrlf where
  proper := by simp
  nil := by rw [dropCrlf]
  skip rest := by rw [List.cons_append, List.cons_append, List.nil_append, dropCrlf]
  keep := dropCrlf_cons

theorem scans_filter (needle : Char) : Scans [needle] (List.filter (· != needle)) where
  proper := by simp
  nil := rfl
  skip rest := by simp
  keep {c rest} elsewhere := by
    have other : c ≠ needle := by
      rintro rfl
      exact elsewhere ⟨rest, rfl⟩
    simp [other]

/-- A text that goes on with no `\n` has no `\r\n` across the seam. -/
theorem dropCrlf_append (front : List Char) {rest : List Char} (seam : rest.head? ≠ some '\n') :
    dropCrlf (front ++ rest) = dropCrlf front ++ dropCrlf rest := by
  fun_induction dropCrlf front with
  | case1 => rfl
  | case2 front ih =>
    rw [List.cons_append, List.cons_append, dropCrlf, ih]
  | case3 c front other ih =>
    rw [List.cons_append, List.cons_append, ← ih]
    refine dropCrlf_cons fun here => ?_
    obtain ⟨rfl, next⟩ := List.cons_prefix_cons.1 here
    cases front with
    | nil =>
      obtain ⟨more, rfl⟩ := next
      exact seam rfl
    | cons d front =>
      obtain ⟨rfl, -⟩ := List.cons_prefix_cons.1 next
      exact other front rfl rfl

/-- A `\r` with no `\n` right after it is kept. -/
theorem dropCrlf_stray (before : List Char) {after : List Char} (stray : after.head? ≠ some '\n') :
    dropCrlf (before ++ '\r' :: after) = dropCrlf before ++ '\r' :: dropCrlf after := by
  have seam : ('\r' :: after).head? ≠ some '\n' := by simp
  rw [dropCrlf_append before seam, dropCrlf_cons]
  intro here
  obtain ⟨more, rfl⟩ := (List.cons_prefix_cons.1 here).2
  exact stray rfl

theorem lineEnds_iff_flatten {cs : List Char} :
    LineEnds cs ↔ ∃ ends : List (List Char), (∀ e ∈ ends, e = ['\r', '\n'] ∨ e = ['\n']) ∧ cs = ends.flatten := by
  constructor
  · intro ends
    induction ends with
    | nil => exact ⟨[], by simp, rfl⟩
    | lf _ ih =>
      obtain ⟨ends, each, rfl⟩ := ih
      exact ⟨['\n'] :: ends, List.forall_mem_cons.2 ⟨.inr rfl, each⟩, rfl⟩
    | crlf _ ih =>
      obtain ⟨ends, each, rfl⟩ := ih
      exact ⟨['\r', '\n'] :: ends, List.forall_mem_cons.2 ⟨.inl rfl, each⟩, rfl⟩
  · rintro ⟨ends, each, rfl⟩
    induction ends with
    | nil => exact .nil
    | cons e ends ih =>
      obtain ⟨here, later⟩ := List.forall_mem_cons.1 each
      rcases here with rfl | rfl
      · exact .crlf (ih later)
      · exact .lf (ih later)

theorem isEmptyLine_iff_removes {cs : List Char} :
    isEmptyLine cs = true ↔ ∃ left, Removes ['\r', '\n'] cs left ∧ Removes ['\n'] left [] := by
  simp only [scans_dropCrlf.removes_iff, (scans_filter '\n').removes_iff, exists_eq_left, isEmptyLine, List.isEmpty_iff]
  exact eq_comm

theorem isEmptyLine_stray (before : List Char) {after : List Char} (stray : after.head? ≠ some '\n') :
    isEmptyLine (before ++ '\r' :: after) = false := by
  rw [isEmptyLine, dropCrlf_stray before stray, List.filter_append]
  simp

end LineEnds

/-- **What is nothing but line ends.** For every text: removing every `\r\n` from it, and then every `\n` from what is
left, leaves nothing exactly where the text is put together from the line ends `\r\n` and `\n`, any number of them in
any order. A `\r` that no `\n` follows in the text stays behind wherever it stands, also where a `\n` is next to it
once the first removal is made. -/
theorem isEmptyLine_exactly_line_ends (s : String) :
    (isEmptyLine s.toList = true ↔ ∃ left, Removes ['\r', '\n'] s.toList left ∧ Removes ['\n'] left []) ∧
    ((∃ left, Removes ['\r', '\n'] s.toList left ∧ Removes ['\n'] left []) ↔
      ∃ ends : List (List Char), (∀ e ∈ ends, e = ['\r', '\n'] ∨ e = ['\n']) ∧ s.toList = ends.flatten) ∧
    ∀ before after, s.toList = before ++ '\r' :: after → after.head? ≠ some '\n' →
      isEmptyLine s.toList = false ∧
      ∃ front back, Removes ['\r', '\n'] before front ∧ Removes ['\r', '\n'] after back ∧
        Removes ['\r', '\n'] s.toList (front ++ '\r' :: back) := by
  refine ⟨isEmptyLine_iff_removes, ?_, ?_⟩
  · rw [← isEmptyLine_iff_removes, isEmptyLine_iff, lineEnds_iff_flatten]
  · intro before after text stray
    rw [text]
    refine ⟨isEmptyLine_stray before stray, dropCrlf before, dropCrlf after, ?_, ?_, ?_⟩
    · exact scans_dropCrlf.removes before
    · exact scans_dropCrlf.removes after
    · exact scans_dropCrlf.removes_iff.2 (dropCrlf_stray before stray).symm

/-- Of `\r\r\n\n` the first removal leaves `\r\n`, and the text is still not one of line ends. -/
theorem isEmptyLine_exactly_line_ends_sample :
    Removes ['\r', '\n'] "\r\r\n\n".toList ['\r', '\n'] ∧ isEmptyLine "\r\r\n\n".toList = false ∧
    ¬ ∃ ends : List (List Char),
      (∀ e ∈ ends, e = ['\r', '\n'] ∨ e = ['\n']) ∧ "\r\r\n\n".toList = ends.flatten := by
  obtain ⟨emptied, concatenated, strays⟩ := isEmptyLine_exactly_line_ends "\r\r\n\n"
  obtain ⟨unseen, front, back, kept, later, removed⟩ := strays [] ['\r', '\n', '\n'] (by decide +kernel) (by decide)
  rw [scans_dropCrlf.removes_iff] at kept later
  subst kept later
  refine ⟨removed, unseen, fun ends => ?_⟩
  rw [emptied.2 (concatenated.2 ends)] at unseen
  cases unseen

end SheetLint.Text
