import SheetLint.Json.Reader
import SheetLint.Proofs.Numerals
import SheetLint.Proofs.QuotedTexts

/-!
# The texts of a document

A document is a sequence of tokens, and a text of it is any layout of these: the tokens one
after the other, with any blanks before, between and after them (`Token.Laid`). Reading is
complete: every text of a document whose numerals and quoted texts are sound is read as the
document (`read?_of_laid`). The scanner needs for this that a numeral is followed by
something that ends it, which in a document is a comma or a closing bracket. The machine is
followed token by token, with what is open around a value held fixed.
-/

namespace SheetLint.Json
set_option autoImplicit false

namespace Token

/-- How a token is written. -/
def spelling : Token → List Char
  | openArray => ['[']
  | closeArray => [']']
  | openObject => ['\x7b']
  | closeObject => ['\x7d']
  | comma => [',']
  | colon => [':']
  | null => ['n', 'u', 'l', 'l']
  | bool true => ['t', 'r', 'u', 'e']
  | bool false => ['f', 'a', 'l', 's', 'e']
  | number literal => literal
  | text body => quoted body

/-- The text is the tokens in their order, with blanks around them. -/
inductive Laid : List Token → List Char → Prop where
  | nil {blank : List Char} (spaces : ∀ c ∈ blank, isSpace c = true) : Laid [] blank
  | cons {t : Token} {ts : List Token} {blank cs : List Char} (spaces : ∀ c ∈ blank, isSpace c = true)
    (rest : Laid ts cs) : Laid (t :: ts) (blank ++ (t.spelling ++ cs))

/-- A number is a numeral, and a quoted text has a meaning. -/
def Sound : Token → Prop
  | number literal => Numeral.numeralB literal = true
  | text body => ∃ t, Quoted.Spells body t
  | _ => True

/-- Whether a value ends before the token. -/
def endsB : Token → Bool
  | closeArray => true
  | closeObject => true
  | comma => true
  | _ => false

/-- Where a number stands, the next token ends it. -/
def Separated : List Token → Prop
  | [] => True
  | t :: rest => (∀ literal, t = number literal → rest.head?.all endsB = true) ∧ Separated rest

section Scan

variable {done ts : List Token} {blank cs rest : List Char}

theorem scanFrom?_blank (spaces : ∀ c ∈ blank, isSpace c = true) :
    scanFrom? done (blank ++ cs) = scanFrom? done cs := by
  induction blank with
  | nil => rfl
  | cons c blank ih =>
    obtain ⟨first, later⟩ := List.forall_mem_cons.1 spaces
    rw [List.cons_append, scanFrom?, if_pos first, ih later]

theorem scanFrom?_next {c : Char} {t : Token} {after : List Char} (solid : isSpace c = false)
    (next : next? c rest = some (t, after)) : scanFrom? done (c :: rest) = scanFrom? (t :: done) after := by
  rw [scanFrom?, if_neg (by simp [solid])]
  split
  · next none => exact absurd (next.symm.trans none) (by simp)
  · next found =>
    obtain ⟨rfl, rfl⟩ := Prod.mk.inj (Option.some.inj (next.symm.trans found))
    rfl

/-- A token is read where it is written. -/
theorem scanFrom?_spelling {t : Token} (sound : t.Sound) (ends : ∀ literal, t = number literal → Numeral.Ends cs) :
    scanFrom? done (t.spelling ++ cs) = scanFrom? (t :: done) cs := by
  cases t with
  | openArray | closeArray | openObject | closeObject | comma | colon | null => exact scanFrom?_next rfl rfl
  | bool value => cases value <;> exact scanFrom?_next rfl rfl
  | number literal =>
    obtain ⟨c, w, rfl⟩ := List.exists_cons_of_ne_nil (Numeral.ne_nil_of_numeralB sound)
    exact scanFrom?_next (Numeral.isSpace_of_numeralB sound) (Numeral.next?_numeral sound (ends _ rfl))
  | text body =>
    obtain ⟨t, spells⟩ := sound
    have body_ends := Quoted.scanBody?_of_spells spells cs
    show scanFrom? done ('"' :: (body ++ ['"']) ++ cs) = _
    rw [List.cons_append, List.append_assoc]
    apply scanFrom?_next rfl
    show (scanBody? (body ++ '"' :: cs)).map _ = _
    rw [body_ends]
    rfl

/-- After a layout that starts with the end of a value, a numeral has ended. -/
theorem ends_of_laid (laid : Laid ts cs) (ends : ts.head?.all endsB = true) : Numeral.Ends cs := by
  have blanks {blank : List Char} (spaces : ∀ c ∈ blank, isSpace c = true) {c : Char} {rest : List Char}
      (first : blank = c :: rest) : Numeral.isNumeralChar c = false := by
    have space := spaces c (first ▸ List.mem_cons_self)
    simp only [isSpace, Bool.or_eq_true, beq_iff_eq] at space
    rcases space with ((rfl | rfl) | rfl) | rfl <;> rfl
  intro c rest starts
  cases laid with
  | nil spaces => exact blanks spaces starts
  | @cons t _ blank _ spaces _ =>
    cases blank with
    | cons d blank =>
      obtain ⟨rfl, -⟩ := List.cons.inj starts
      exact blanks spaces rfl
    | nil =>
      have closes : t.endsB = true := ends
      cases t with
      | closeArray | closeObject | comma =>
        obtain ⟨rfl, -⟩ := List.cons.inj starts
        rfl
      | _ => cases closes

/-- **The tokens of a layout** are read one after the other. -/
theorem scanFrom?_of_laid (laid : Laid ts cs) (sound : ∀ t ∈ ts, t.Sound) (separated : Separated ts)
    (done : List Token) : scanFrom? done cs = some (done.reverse ++ ts) := by
  induction laid generalizing done with
  | nil spaces =>
    have skipped := @scanFrom?_blank done _ [] spaces
    rw [List.append_nil] at skipped ⊢
    rw [skipped, scanFrom?]
  | @cons t ts blank cs spaces rest ih =>
    obtain ⟨first, later⟩ := List.forall_mem_cons.1 sound
    have ends : ∀ literal, t = number literal → Numeral.Ends cs :=
      fun literal same => ends_of_laid rest (separated.1 literal same)
    rw [scanFrom?_blank spaces, scanFrom?_spelling first ends, ih later separated.2, List.reverse_cons,
      List.append_assoc, List.singleton_append]

end Scan

/-- Tokens without any blank are a layout. -/
theorem laid_flatMap (ts : List Token) : Laid ts (ts.flatMap spelling) := by
  induction ts with
  | nil => exact Laid.nil nofun
  | cons t ts ih => exact @Laid.cons t ts [] _ nofun ih

end Token

mutual

/-- The tokens of a document. -/
def tokens : Json → List Token
  | .null => [.null]
  | .bool b => [.bool b]
  | .number literal => [.number literal]
  | .text body => [.text body]
  | .array items => .openArray :: itemTokens items
  | .object fields => .openObject :: fieldTokens fields

/-- The tokens of the items of an array and of its end. -/
def itemTokens : List Json → List Token
  | [] => [.closeArray]
  | item :: rest => tokens item ++ laterItems rest

/-- The tokens of further items of an array and of its end. -/
def laterItems : List Json → List Token
  | [] => [.closeArray]
  | item :: rest => .comma :: (tokens item ++ laterItems rest)

/-- The tokens of the fields of an object and of its end. -/
def fieldTokens : List (List Char × Json) → List Token
  | [] => [.closeObject]
  | (name, value) :: rest => .text name :: .colon :: (tokens value ++ laterFields rest)

/-- The tokens of further fields of an object and of its end. -/
def laterFields : List (List Char × Json) → List Token
  | [] => [.closeObject]
  | (name, value) :: rest => .comma :: .text name :: .colon :: (tokens value ++ laterFields rest)

end

section Machine

open ReadState (run? step? complete)

/-- An array that does not end goes on with a value. -/
theorem run?_arrayStart (outer : List Frame) {t : Token} (opens : t ≠ .closeArray) (ts : List Token) :
    run? (.arrayStart outer) (t :: ts) = run? (.value (.array [] :: outer)) (t :: ts) := by
  have step : step? (.arrayStart outer) t = step? (.value (.array [] :: outer)) t := by
    cases t with
    | closeArray => exact absurd rfl opens
    | _ => rfl
  rw [run?, step, run?]

theorem tokens_eq_cons (j : Json) : ∃ t ts, j.tokens = t :: ts ∧ t ≠ .closeArray := by
  cases j with
  | null | bool _ | number _ | text _ | array _ | object _ => exact ⟨_, _, rfl, nofun⟩

mutual

/-- The machine takes the tokens of a value as the value, whatever is open around it. -/
theorem run?_tokens : (j : Json) → ∀ (outer : List Frame) (ts : List Token),
    run? (.value outer) (j.tokens ++ ts) = run? (complete j outer) ts
  | .null, _, _ | .bool _, _, _ | .number _, _, _ | .text _, _, _ => rfl
  | .array items, outer, ts => run?_itemTokens items outer ts
  | .object fields, outer, ts => run?_fieldTokens fields outer ts

theorem run?_itemTokens : (items : List Json) → ∀ (outer : List Frame) (ts : List Token),
    run? (.arrayStart outer) (itemTokens items ++ ts) = run? (complete (.array items) outer) ts
  | [], _, _ => rfl
  | item :: rest, outer, ts => by
    obtain ⟨t, more, starts, opens⟩ := tokens_eq_cons item
    have inside := run?_tokens item (.array [] :: outer) (laterItems rest ++ ts)
    rw [starts, List.cons_append] at inside
    rw [itemTokens, List.append_assoc, starts, List.cons_append, run?_arrayStart outer opens, inside]
    exact run?_laterItems rest [item] outer ts

theorem run?_laterItems : (items : List Json) → ∀ (done : List Json) (outer : List Frame) (ts : List Token),
    run? (.arrayNext done outer) (laterItems items ++ ts) = run? (complete (.array (done.reverse ++ items)) outer) ts
  | [], done, outer, ts => by
    rw [List.append_nil]
    rfl
  | item :: rest, done, outer, ts => by
    have inside := run?_tokens item (.array done :: outer) (laterItems rest ++ ts)
    have after := run?_laterItems rest (item :: done) outer ts
    rw [List.reverse_cons, List.append_assoc, List.singleton_append] at after
    rw [laterItems, List.cons_append, List.append_assoc, run?]
    exact inside.trans after

theorem run?_fieldTokens : (fields : List (List Char × Json)) → ∀ (outer : List Frame) (ts : List Token),
    run? (.objectStart outer) (fieldTokens fields ++ ts) = run? (complete (.object fields) outer) ts
  | [], _, _ => rfl
  | (name, value) :: rest, outer, ts => by
    have inside := run?_tokens value (.field [] name :: outer) (laterFields rest ++ ts)
    rw [fieldTokens, List.cons_append, List.cons_append, List.append_assoc]
    exact inside.trans (run?_laterFields rest [(name, value)] outer ts)

theorem run?_laterFields : (fields : List (List Char × Json)) →
    ∀ (done : List (List Char × Json)) (outer : List Frame) (ts : List Token),
    run? (.objectNext done outer) (laterFields fields ++ ts) =
      run? (complete (.object (done.reverse ++ fields)) outer) ts
  | [], done, outer, ts => by
    rw [List.append_nil]
    rfl
  | (name, value) :: rest, done, outer, ts => by
    have inside := run?_tokens value (.field done name :: outer) (laterFields rest ++ ts)
    have after := run?_laterFields rest ((name, value) :: done) outer ts
    rw [List.reverse_cons, List.append_assoc, List.singleton_append] at after
    rw [laterFields, List.cons_append, List.cons_append, List.cons_append, List.append_assoc]
    exact inside.trans after

end
end Machine

section Separated

open Token (Separated endsB)

theorem head_laterItems (items : List Json) (ts : List Token) :
    (laterItems items ++ ts).head?.all endsB = true := by
  cases items <;> rfl

theorem head_laterFields (fields : List (List Char × Json)) (ts : List Token) :
    (laterFields fields ++ ts).head?.all endsB = true := by
  cases fields <;> rfl

mutual

/-- In a document every number is ended by the token after it. -/
theorem separated_tokens : (j : Json) → ∀ {ts : List Token}, ts.head?.all endsB = true → Separated ts →
    Separated (j.tokens ++ ts)
  | .number _, _, ends, separated => ⟨fun _ _ => ends, separated⟩
  | .null, _, _, separated | .bool _, _, _, separated | .text _, _, _, separated => ⟨nofun, separated⟩
  | .array items, _, _, separated => ⟨nofun, separated_itemTokens items separated⟩
  | .object fields, _, _, separated => ⟨nofun, separated_fieldTokens fields separated⟩

theorem separated_itemTokens : (items : List Json) → ∀ {ts : List Token}, Separated ts →
    Separated (itemTokens items ++ ts)
  | [], _, separated => ⟨nofun, separated⟩
  | item :: rest, ts, separated => by
    rw [itemTokens, List.append_assoc]
    exact separated_tokens item (head_laterItems rest ts) (separated_laterItems rest separated)

theorem separated_laterItems : (items : List Json) → ∀ {ts : List Token}, Separated ts →
    Separated (laterItems items ++ ts)
  | [], _, separated => ⟨nofun, separated⟩
  | item :: rest, ts, separated => by
    rw [laterItems, List.cons_append, List.append_assoc]
    exact ⟨nofun, separated_tokens item (head_laterItems rest ts) (separated_laterItems rest separated)⟩

theorem separated_fieldTokens : (fields : List (List Char × Json)) → ∀ {ts : List Token}, Separated ts →
    Separated (fieldTokens fields ++ ts)
  | [], _, separated => ⟨nofun, separated⟩
  | (name, value) :: rest, ts, separated => by
    rw [fieldTokens, List.cons_append, List.cons_append, List.append_assoc]
    exact ⟨nofun, nofun, separated_tokens value (head_laterFields rest ts) (separated_laterFields rest separated)⟩

theorem separated_laterFields : (fields : List (List Char × Json)) → ∀ {ts : List Token}, Separated ts →
    Separated (laterFields fields ++ ts)
  | [], _, separated => ⟨nofun, separated⟩
  | (name, value) :: rest, ts, separated => by
    rw [laterFields, List.cons_append, List.cons_append, List.cons_append, List.append_assoc]
    exact ⟨nofun, nofun, nofun,
      separated_tokens value (head_laterFields rest ts) (separated_laterFields rest separated)⟩

end
end Separated

/-- Every numeral and quoted text of the document is sound. -/
def Sound (j : Json) : Prop := ∀ t ∈ j.tokens, t.Sound

section Sound

theorem sound_laterItems {items : List Json} (sound : ∀ item ∈ items, item.Sound) :
    ∀ t ∈ laterItems items, t.Sound := by
  induction items with
  | nil => exact List.forall_mem_singleton.2 trivial
  | cons item rest ih =>
    obtain ⟨first, later⟩ := List.forall_mem_cons.1 sound
    exact List.forall_mem_cons.2 ⟨trivial, List.forall_mem_append.2 ⟨first, ih later⟩⟩

theorem sound_array {items : List Json} (sound : ∀ item ∈ items, item.Sound) : (array items).Sound := by
  show ∀ t ∈ Token.openArray :: itemTokens items, t.Sound
  refine List.forall_mem_cons.2 ⟨trivial, ?_⟩
  cases items with
  | nil => exact List.forall_mem_singleton.2 trivial
  | cons item rest =>
    obtain ⟨first, later⟩ := List.forall_mem_cons.1 sound
    exact List.forall_mem_append.2 ⟨first, sound_laterItems later⟩

variable {fields : List (List Char × Json)}

theorem sound_laterFields (sound : ∀ f ∈ fields, (Token.text f.1).Sound ∧ f.2.Sound) :
    ∀ t ∈ laterFields fields, t.Sound := by
  induction fields with
  | nil => exact List.forall_mem_singleton.2 trivial
  | cons field rest ih =>
    obtain ⟨⟨name, value⟩, later⟩ := List.forall_mem_cons.1 sound
    exact List.forall_mem_cons.2 ⟨trivial, List.forall_mem_cons.2 ⟨name, List.forall_mem_cons.2
      ⟨trivial, List.forall_mem_append.2 ⟨value, ih later⟩⟩⟩⟩

theorem sound_object (sound : ∀ f ∈ fields, (Token.text f.1).Sound ∧ f.2.Sound) : (object fields).Sound := by
  show ∀ t ∈ Token.openObject :: fieldTokens fields, t.Sound
  refine List.forall_mem_cons.2 ⟨trivial, ?_⟩
  cases fields with
  | nil => exact List.forall_mem_singleton.2 trivial
  | cons field rest =>
    obtain ⟨⟨name, value⟩, later⟩ := List.forall_mem_cons.1 sound
    exact List.forall_mem_cons.2 ⟨name, List.forall_mem_cons.2
      ⟨trivial, List.forall_mem_append.2 ⟨value, sound_laterFields later⟩⟩⟩

end Sound

/-- **Reading is complete**: every text of a sound document is read as the document. -/
theorem read?_of_laid {j : Json} {cs : List Char} (sound : j.Sound) (laid : Token.Laid j.tokens cs) :
    read? cs = some j := by
  have separated : Token.Separated j.tokens := by
    have := @separated_tokens j [] rfl trivial
    rwa [List.append_nil] at this
  have scanned : Token.scan? cs = some j.tokens := Token.scanFrom?_of_laid laid sound separated []
  have machine : ReadState.run? (.value []) j.tokens = some (.finished j) := by
    have := run?_tokens j [] []
    rwa [List.append_nil] at this
  rw [read?, scanned]
  simp only [machine]

section Compact

theorem joined_cons (separator piece : List Char) (pieces : List (List Char)) :
    joined separator (piece :: pieces) = piece ++ pieces.flatMap (separator ++ ·) := by
  induction pieces generalizing piece with
  | nil => simp [joined]
  | cons next rest ih => simp [joined, ih next]

mutual

/-- The compact layout writes the tokens without any blank. -/
theorem compact_eq : (j : Json) → j.compact = j.tokens.flatMap Token.spelling
  | .null | .bool true | .bool false => rfl
  | .number literal => (List.append_nil literal).symm
  | .text body => (List.append_nil (quoted body)).symm
  | .array [] | .object [] => rfl
  | .array (item :: rest) => by
    rw [compact, compactItems, joined_cons, compact_eq item, tokens, itemTokens, List.flatMap_cons,
      List.flatMap_append, ← laterItems_eq rest, List.cons_append, List.append_assoc]
    rfl
  | .object ((name, value) :: rest) => by
    rw [compact, compactFields, joined_cons, compact_eq value, tokens, fieldTokens, List.flatMap_cons,
      List.flatMap_cons, List.flatMap_cons, List.flatMap_append, ← laterFields_eq rest]
    simp [Token.spelling]

theorem laterItems_eq : (items : List Json) →
    (compactItems items).flatMap ([','] ++ ·) ++ [']'] = (laterItems items).flatMap Token.spelling
  | [] => rfl
  | item :: rest => by
    rw [compactItems, laterItems, List.flatMap_cons, List.flatMap_cons, List.flatMap_append, ← laterItems_eq rest,
      compact_eq item, List.append_assoc, List.append_assoc]
    rfl

theorem laterFields_eq : (fields : List (List Char × Json)) →
    (compactFields fields).flatMap ([','] ++ ·) ++ ['\x7d'] = (laterFields fields).flatMap Token.spelling
  | [] => rfl
  | (name, value) :: rest => by
    rw [compactFields, laterFields, List.flatMap_cons, List.flatMap_cons, List.flatMap_cons, List.flatMap_cons,
      List.flatMap_append, ← laterFields_eq rest, compact_eq value]
    simp [Token.spelling]

end

/-- The compact layout is a text of the document. -/
theorem laid_compact (j : Json) : Token.Laid j.tokens j.compact :=
  compact_eq j ▸ Token.laid_flatMap j.tokens

end Compact
end SheetLint.Json
