/-!
# Glob patterns

In a pattern `?` stands for one character, `*` for any number of them, a list in
brackets for one of its members or, after `!`, for one that is none of them.
`**` stands alone between slashes and for any number of whole segments. A
pattern is checked against a whole text; no character of the text, not even
`/`, needs to be written out. `matchesB` says which texts fit, token by token;
`acceptsB` finds out for all ends of a text at once, and `acceptsB_eq_matchesB`
says that the two agree.
-/

namespace SheetLint.Glob
set_option autoImplicit false

/-- A member of a list in brackets. -/
inductive Member where
  | single (c : Char)
  | range (first last : Char)
deriving DecidableEq, Repr

/-- Whether a character is the member or in its range. -/
def Member.holdsB (c : Char) : Member → Bool
  | single d => c == d
  | range first last => first ≤ c && c ≤ last

/-- A part of a pattern. -/
inductive Token where
  | char (c : Char)
  | anyChar
  | anySequence
  | anySegments
  | oneOf (members : List Member)
  | noneOf (members : List Member)
deriving DecidableEq, Repr

/-- What is wrong with a pattern. -/
inductive Problem where
  | starRun
  | partialSegment
  | badList
deriving DecidableEq, Repr

/-- A problem, and the index of the character where it shows. -/
structure Error where
  position : Nat
  problem : Problem
deriving DecidableEq, Repr

/-- The problem in words. -/
def Problem.message : Problem → String
  | starRun => "wildcards are either regular `*` or recursive `**`"
  | partialSegment => "recursive wildcards must form a single path component"
  | badList => "invalid range pattern"

/-- The error in words. -/
def Error.message (e : Error) : String :=
  s!"Pattern syntax error near position {e.position}: {e.problem.message}"

/-- The members that the text in brackets lists. -/
def members : List Char → List Member
  | a :: '-' :: b :: rest => .range a b :: members rest
  | c :: rest => .single c :: members rest
  | [] => []

/-- The text before the first closing bracket, and the text after it. -/
def cutBracket? : List Char → Option (List Char × List Char)
  | [] => none
  | c :: rest => if c = ']' then some ([], rest) else (cutBracket? rest).map fun p => (c :: p.1, p.2)

/-- The list after an opening bracket, and the text after it. A closing bracket that comes first is
a member. -/
def list? : List Char → Option (Token × List Char)
  | '!' :: c :: rest => (cutBracket? rest).map fun p => (.noneOf (members (c :: p.1)), p.2)
  | ['!'] => none
  | c :: rest => (cutBracket? rest).map fun p => (.oneOf (members (c :: p.1)), p.2)
  | [] => none

theorem length_cutBracket? {cs inside rest : List Char} (cut : cutBracket? cs = some (inside, rest)) :
    rest.length < cs.length := by
  fun_induction cutBracket? cs generalizing inside with
  | case1 => simp at cut
  | case2 rest' => simp at cut; simp [cut.2]
  | case3 c rest' _ ih =>
    obtain ⟨p, found, same⟩ := Option.map_eq_some_iff.1 cut
    obtain ⟨p1, p2⟩ := p
    simp only [Prod.mk.injEq] at same
    have := ih (same.2 ▸ found)
    simp only [List.length_cons]
    omega

theorem length_list? {cs rest : List Char} {t : Token} (found : list? cs = some (t, rest)) :
    rest.length < cs.length := by
  fun_cases list? cs with
  | case1 c more =>
    simp only [list?] at found
    obtain ⟨p, cut, same⟩ := Option.map_eq_some_iff.1 found
    simp only [Prod.mk.injEq] at same
    have := @length_cutBracket? _ p.1 p.2 cut
    simp only [← same.2, List.length_cons]
    omega
  | case2 => simp [list?] at found
  | case3 c more =>
    rw [list?] at found
    · obtain ⟨p, cut, same⟩ := Option.map_eq_some_iff.1 found
      simp only [Prod.mk.injEq] at same
      have := @length_cutBracket? _ p.1 p.2 cut
      simp only [← same.2, List.length_cons]
      omega
    all_goals assumption
  | case4 => simp [list?] at found

/-- The tokens of the rest of a pattern of `total` characters, after the character `before`. -/
def tokens (total : Nat) (before : Option Char) (cs : List Char) : Except Error (List Token) :=
  let place := total - cs.length
  match cs with
  | [] => .ok []
  | '?' :: rest => (tokens total (some '?') rest).map (.anyChar :: ·)
  | '*' :: '*' :: '*' :: _ => .error ⟨place + 2, .starRun⟩
  | '*' :: '*' :: rest =>
    if before.all (· == '/') then
      match rest with
      | [] => .ok [.anySegments]
      | '/' :: more => (tokens total (some '/') more).map (.anySegments :: ·)
      | _ => .error ⟨place + 2, .partialSegment⟩
    else .error ⟨place - 1, .partialSegment⟩
  | '*' :: rest => (tokens total (some '*') rest).map (.anySequence :: ·)
  | '[' :: rest =>
    match found : list? rest with
    | none => .error ⟨place, .badList⟩
    | some (t, more) =>
      have := length_list? found
      (tokens total (some ']') more).map (t :: ·)
  | c :: rest => (tokens total (some c) rest).map (.char c :: ·)
termination_by cs.length
decreasing_by all_goals simp only [List.length_cons]; omega

/-- The tokens of a pattern. -/
def parse (pattern : List Char) : Except Error (List Token) :=
  tokens pattern.length none pattern

/-- Every end of a text, the whole text first and the empty one last. -/
def ends : List Char → List (List Char)
  | [] => [[]]
  | c :: cs => (c :: cs) :: ends cs

/-- What may be left of a text when whole segments are taken off: the text itself, what follows a
slash, and nothing. -/
def afterSegments (cs : List Char) : List (List Char) :=
  cs :: afterSlashes cs
where
  afterSlashes : List Char → List (List Char)
    | [] => [[]]
    | '/' :: rest => rest :: afterSlashes rest
    | _ :: rest => afterSlashes rest

/-- Whether a text as a whole fits the tokens. -/
def matchesB : List Token → List Char → Bool
  | [], cs => cs.isEmpty
  | .anySequence :: ts, cs => (ends cs).any (matchesB ts)
  | .anySegments :: ts, cs => (afterSegments cs).any (matchesB ts)
  | .char d :: ts, c :: cs => c == d && matchesB ts cs
  | .anyChar :: ts, _ :: cs => matchesB ts cs
  | .oneOf ms :: ts, c :: cs => ms.any (·.holdsB c) && matchesB ts cs
  | .noneOf ms :: ts, c :: cs => !ms.any (·.holdsB c) && matchesB ts cs
  | _ :: _, [] => false

/-- For every end of a text, whether a character with the property leads it and `fits` holds of what
follows. -/
def fitOne (property : Char → Bool) : List Char → List Bool → List Bool
  | c :: cs, _ :: fits => (property c && fits.headD false) :: fitOne property cs fits
  | _, _ => [false]

/-- For every end of a text, whether `fits` holds of it or of a later end. -/
def fitSequence : List Bool → List Bool
  | [] => []
  | b :: fits =>
    let later := fitSequence fits
    (b || later.headD false) :: later

/-- For every end of a text, whether `fits` holds of a later end that follows a slash, or of the
empty one. -/
def fitSlashes : List Char → List Bool → List Bool
  | c :: cs, _ :: fits =>
    let later := fitSlashes cs fits
    ((c == '/' && fits.headD false) || later.headD false) :: later
  | _, fits => fits

/-- For every end of a text, whether it fits the tokens. The ends are settled from the last token
back, so the work is the length of the text times that of the pattern. -/
def fitEnds : List Token → List Char → List Bool
  | [], cs => (ends cs).map List.isEmpty
  | .anySequence :: ts, cs => fitSequence (fitEnds ts cs)
  | .anySegments :: ts, cs =>
    let fits := fitEnds ts cs
    List.zipWith (· || ·) fits (fitSlashes cs fits)
  | .char d :: ts, cs => fitOne (· == d) cs (fitEnds ts cs)
  | .anyChar :: ts, cs => fitOne (fun _ => true) cs (fitEnds ts cs)
  | .oneOf ms :: ts, cs => fitOne (fun c => ms.any (·.holdsB c)) cs (fitEnds ts cs)
  | .noneOf ms :: ts, cs => fitOne (fun c => !ms.any (·.holdsB c)) cs (fitEnds ts cs)

/-- Whether a text as a whole fits the tokens, settled for all its ends at once. -/
def acceptsB (ts : List Token) (cs : List Char) : Bool :=
  (fitEnds ts cs).headD false

theorem headD_map_ends (f : List Char → Bool) (cs : List Char) :
    ((ends cs).map f).headD false = f cs := by
  cases cs <;> rfl

theorem fitOne_map (property : Char → Bool) (f g : List Char → Bool) (none : g [] = false)
    (one : ∀ c cs, g (c :: cs) = (property c && f cs)) (cs : List Char) :
    fitOne property cs ((ends cs).map f) = (ends cs).map g := by
  induction cs with
  | nil => simp [ends, fitOne, none]
  | cons c cs ih => simp only [ends, List.map_cons, fitOne, headD_map_ends, one, ih]

theorem fitSequence_map (f : List Char → Bool) (cs : List Char) :
    fitSequence ((ends cs).map f) = (ends cs).map fun e => (ends e).any f := by
  induction cs with
  | nil => simp [ends, fitSequence]
  | cons c cs ih => simp only [ends, List.map_cons, fitSequence, ih, headD_map_ends, List.any_cons]

theorem fitSlashes_map (f : List Char → Bool) (cs : List Char) :
    fitSlashes cs ((ends cs).map f) =
      (ends cs).map fun e => (afterSegments.afterSlashes e).any f := by
  induction cs with
  | nil => simp [ends, fitSlashes, afterSegments.afterSlashes]
  | cons c cs ih =>
    simp only [ends, List.map_cons, fitSlashes, ih, headD_map_ends]
    by_cases slash : c = '/'
    · simp [slash, afterSegments.afterSlashes]
    · simp [slash, afterSegments.afterSlashes]

theorem fitEnds_eq_map (ts : List Token) (cs : List Char) :
    fitEnds ts cs = (ends cs).map (matchesB ts) := by
  induction ts with
  | nil => rfl
  | cons t ts ih =>
    cases t with
    | anySequence =>
      rw [fitEnds, ih, fitSequence_map]
      rfl
    | anySegments =>
      simp only [fitEnds, ih, fitSlashes_map, List.zipWith_map, List.zipWith_self]
      rfl
    | char d => rw [fitEnds, ih]; exact fitOne_map _ _ _ rfl (fun _ _ => rfl) cs
    | anyChar => rw [fitEnds, ih]; exact fitOne_map _ _ _ rfl (fun _ _ => rfl) cs
    | oneOf ms => rw [fitEnds, ih]; exact fitOne_map _ _ _ rfl (fun _ _ => rfl) cs
    | noneOf ms => rw [fitEnds, ih]; exact fitOne_map _ _ _ rfl (fun _ _ => rfl) cs

/-- Settling all ends at once gives what taking the tokens one by one gives. -/
theorem acceptsB_eq_matchesB (ts : List Token) (cs : List Char) :
    acceptsB ts cs = matchesB ts cs := by
  rw [acceptsB, fitEnds_eq_map, headD_map_ends]

/-- The text that tokens without wildcards stand for. -/
def literal? : List Token → Option (List Char)
  | [] => some []
  | .char c :: ts => (literal? ts).map (c :: ·)
  | _ :: _ => none

end SheetLint.Glob
