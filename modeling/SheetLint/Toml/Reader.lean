import SheetLint.Toml.Document

/-!
# Reading TOML

A text is read line by line: headers, keys with their values, and lines with
nothing but a comment. Arrays may run over several lines, inline tables may
not. Brackets nest at most 79 deep, and a key has at most 79 parts.
-/

namespace SheetLint.Toml
set_option autoImplicit false

/-- How deep brackets may nest, and how many parts a key may have. -/
def maxDepth : Nat := 79

theorem length_skipTrivia (cs : List Char) : (skipTrivia cs).length ≤ cs.length := by
  fun_induction skipTrivia cs with
  | case1 => simp
  | case2 rest ih => simp only [List.length_cons]; omega
  | case3 rest ih =>
    have := length_dropWhile_le isPlain rest
    simp only [List.length_cons]; omega
  | case4 c rest _ _ _ ih => simp only [List.length_cons]; omega
  | case5 => simp

/-- A key within the limit on parts. -/
def shortKey? (cs : List Char) : Option (Cut (List String) cs) :=
  (key? cs).filter fun cut => cut.value.length ≤ maxDepth

/-- A key and the equals sign after it. -/
def keyEquals? (cs : List Char) : Option (Cut (List String) cs) :=
  match shortKey? cs with
  | none => none
  | some cut =>
    match eq : skipBlanks cut.rest with
    | '=' :: rest =>
      some (cut.dropRest (skipBlanks rest) (by
        have h1 := length_dropWhile_le isInlineBlank cut.rest
        have h2 := length_dropWhile_le isInlineBlank rest
        simp only [skipBlanks] at eq ⊢
        rw [eq] at h1
        simp only [List.length_cons] at h1
        omega))
    | _ => none

/-- The item of a string. -/
def stringItem (cs : List Char) : Item := .scalar (.string (String.ofList cs))

mutual

/-- A value, inside `maxDepth - room` brackets. -/
def value? (room : Nat) (cs : List Char) : Option (Cut Item cs) :=
  match cs with
  | '[' :: rest =>
    if room = 0 then none
    else (items? (room - 1) (skipTrivia rest)).map fun cut =>
      (cut.map .array).widen (by have := length_skipTrivia rest; simp only [List.length_cons]; omega)
  | '\x7b' :: rest =>
    if room = 0 then none
    else match eq : skipBlanks rest with
      | '\x7d' :: rest' =>
        some ⟨.table .inline [], rest', by
          have := length_dropWhile_le isInlineBlank rest
          simp only [skipBlanks] at eq
          rw [eq] at this
          simp only [List.length_cons] at this ⊢
          omega⟩
      | rest' =>
        have shorter : rest'.length ≤ rest.length := by
          have := length_dropWhile_le isInlineBlank rest
          simp only [skipBlanks] at eq
          rw [eq] at this
          exact this
        (entries? (room - 1) [] rest').map fun cut =>
          (cut.map (.table .inline)).widen
            (by simp only [List.length_cons]; omega)
  | '"' :: rest => (string? ('"' :: rest)).map fun cut => cut.map stringItem
  | '\'' :: rest => (string? ('\'' :: rest)).map fun cut => cut.map stringItem
  | cs => (scalar cs).map fun cut => cut.map .scalar
termination_by 2 * cs.length
decreasing_by
  · have := length_skipTrivia rest; simp only [List.length_cons]; omega
  · simp only [List.length_cons]; omega

/-- The items of an array up to its closing bracket, from the start of an item on. -/
def items? (room : Nat) (cs : List Char) : Option (Cut (List Item) cs) :=
  match cs with
  | ']' :: rest => some ⟨[], rest, by simp⟩
  | cs =>
    match value? room cs with
    | none => none
    | some item =>
      match eq : skipTrivia item.rest with
      | ']' :: rest =>
        some (((item.map fun v => [v]).dropRest rest) (by
          have := length_skipTrivia item.rest
          rw [eq] at this
          simp only [List.length_cons] at this
          simp only [Cut.map]
          omega))
      | ',' :: rest =>
        have shorter : (skipTrivia rest).length < cs.length := by
          have h1 := length_skipTrivia item.rest
          have h2 := length_skipTrivia rest
          have h3 := item.shorter
          rw [eq] at h1
          simp only [List.length_cons] at h1
          omega
        (items? room (skipTrivia rest)).map fun cut =>
          (cut.map (item.value :: ·)).widen (Nat.le_of_lt shorter)
      | _ => none
termination_by 2 * cs.length + 1
decreasing_by
  · omega
  · omega

/-- The entries of an inline table up to its closing brace, after those that `done` holds. -/
def entries? (room : Nat) (done : Items) (cs : List Char) : Option (Cut Items cs) :=
  match keyEquals? cs with
  | none => none
  | some key =>
    match value? room key.rest with
    | none => none
    | some v =>
      match done.assign? key.value v.value .header with
      | none => none
      | some done =>
        match eq : skipBlanks v.rest with
        | '\x7d' :: rest =>
          some ⟨done, rest, by
            have h1 := length_dropWhile_le isInlineBlank v.rest
            have h2 := v.shorter
            have h3 := key.shorter
            simp only [skipBlanks] at eq
            rw [eq] at h1
            simp only [List.length_cons] at h1
            omega⟩
        | ',' :: rest =>
          have shorter : (skipBlanks rest).length < cs.length := by
            have h1 := length_dropWhile_le isInlineBlank v.rest
            have h2 := v.shorter
            have h3 := key.shorter
            have h4 := length_dropWhile_le isInlineBlank rest
            simp only [skipBlanks] at eq ⊢
            rw [eq] at h1
            simp only [List.length_cons] at h1
            omega
          (entries? room done (skipBlanks rest)).map fun cut => cut.widen (Nat.le_of_lt shorter)
        | _ => none
termination_by 2 * cs.length
decreasing_by
  · have := key.shorter; omega
  · omega

end

/-- The text after closing brackets. -/
def close? : List Char → List Char → Option (List Char)
  | [], cs => some cs
  | b :: brackets, cs => (expect? b cs).bind (close? brackets)

/-- The draft after the statement that a line starts with, and the rest of the line. A line without
a statement leaves the draft as it is. -/
def statement? (d : Draft) (cs : List Char) : Option (Draft × List Char) :=
  match skipBlanks cs with
  | '[' :: '[' :: rest => do
    let cut ← shortKey? (skipBlanks rest)
    let d ← d.element? cut.value
    let rest ← close? [']', ']'] (skipBlanks cut.rest)
    some (d, rest)
  | '[' :: rest => do
    let cut ← shortKey? (skipBlanks rest)
    let d ← d.header? cut.value
    let rest ← close? [']'] (skipBlanks cut.rest)
    some (d, rest)
  | cs =>
    if cs = [] ∨ cs.head? = some '#' ∨ (lineEnd? cs).isSome then some (d, cs)
    else do
      let key ← keyEquals? cs
      let v ← value? maxDepth key.rest
      let d ← d.assign? key.value v.value
      some (d, v.rest)

theorem length_close? {brackets cs rest : List Char} (eq : close? brackets cs = some rest) :
    rest.length ≤ cs.length := by
  induction brackets generalizing cs with
  | nil => simp only [close?, Option.some.injEq] at eq; simp [eq]
  | cons b brackets ih =>
    obtain ⟨after, found, more⟩ := Option.bind_eq_some_iff.1 eq
    exact Nat.le_trans (ih more) (length_expect? found)

theorem length_statement? {d d' : Draft} {cs rest : List Char}
    (eq : statement? d cs = some (d', rest)) : rest.length ≤ cs.length := by
  have skip := fun cs => length_dropWhile_le isInlineBlank cs
  have start := skip cs
  rw [statement?.eq_def] at eq
  simp only [skipBlanks] at eq
  split at eq
  · rename_i more found
    rw [found] at start
    obtain ⟨cut, _, eq⟩ := Option.bind_eq_some_iff.1 eq
    obtain ⟨_, _, eq⟩ := Option.bind_eq_some_iff.1 eq
    obtain ⟨after, closed, eq⟩ := Option.bind_eq_some_iff.1 eq
    simp only [Option.some.injEq, Prod.mk.injEq] at eq
    have h1 := length_close? closed
    have h2 := skip cut.rest
    have h3 := cut.shorter
    have h4 := skip more
    simp only [List.length_cons] at start
    rw [← eq.2]
    omega
  · rename_i more _ found
    rw [found] at start
    obtain ⟨cut, _, eq⟩ := Option.bind_eq_some_iff.1 eq
    obtain ⟨_, _, eq⟩ := Option.bind_eq_some_iff.1 eq
    obtain ⟨after, closed, eq⟩ := Option.bind_eq_some_iff.1 eq
    simp only [Option.some.injEq, Prod.mk.injEq] at eq
    have h1 := length_close? closed
    have h2 := skip cut.rest
    have h3 := cut.shorter
    have h4 := skip more
    simp only [List.length_cons] at start
    rw [← eq.2]
    omega
  · split at eq
    · simp only [Option.some.injEq, Prod.mk.injEq] at eq
      rw [← eq.2]
      exact start
    · obtain ⟨key, _, eq⟩ := Option.bind_eq_some_iff.1 eq
      obtain ⟨v, _, eq⟩ := Option.bind_eq_some_iff.1 eq
      obtain ⟨_, _, eq⟩ := Option.bind_eq_some_iff.1 eq
      simp only [Option.some.injEq, Prod.mk.injEq] at eq
      have h1 := v.shorter
      have h2 := key.shorter
      rw [← eq.2]
      omega

theorem length_skipComment (cs : List Char) : (skipComment cs).length ≤ cs.length := by
  fun_cases skipComment cs with
  | case1 rest =>
    have := length_dropWhile_le isPlain rest
    simp only [List.length_cons]
    omega
  | case2 => simp

theorem length_endLine? {cs rest : List Char} (eq : endLine? cs = some rest) (more : rest ≠ []) :
    rest.length < cs.length := by
  have h1 := length_dropWhile_le isInlineBlank cs
  have h2 := length_skipComment (skipBlanks cs)
  simp only [endLine?] at eq
  split at eq
  · exact absurd (Option.some.inj eq).symm more
  · have h3 := length_lineEnd? eq
    simp only [skipBlanks] at h2 h3
    omega

/-- The draft after all lines of a text. -/
def lines? (d : Draft) (cs : List Char) : Option Draft :=
  match read : statement? d cs with
  | none => none
  | some (d, rest) =>
    match ended : endLine? rest with
    | none => none
    | some [] => some d
    | some (c :: more) =>
      have shorter : (c :: more).length < cs.length :=
        Nat.lt_of_lt_of_le (length_endLine? ended (by simp)) (length_statement? read)
      lines? d (c :: more)
termination_by cs.length

/-- The entries of the document that a text is. A byte order mark may stand in front. -/
def read? (text : String) : Option Items :=
  let cs := match text.toList with
    | '\uFEFF' :: rest => rest
    | cs => cs
  (lines? {} cs).map Draft.entries

end SheetLint.Toml
