import SheetLint.Proofs.Sites

/-!
# Letter case of ASCII colors

The letter case of a text is told by converting the whole text both ways and comparing. On ASCII
texts a conversion changes letters one by one, so all of this comes down to single letters: a color
offends against a style exactly when it has a letter of the other case (`cleanB_eq_false_iff`). The
two styles are treated alike: each has the letters it does not want and the conversion that takes
them away.

A tree whose colors are rewritten by that conversion has nothing left to report, and each color
stays as valid as it was, as a hexadecimal digit is one in either case (`verdicts_recolor`).
-/

namespace SheetLint
set_option autoImplicit false

namespace Text

/-- All characters are ASCII. -/
def Ascii (cs : List Char) : Prop := ∀ c ∈ cs, c.toNat < 128

instance : DecidablePred Ascii := fun cs => List.decidableBAll (fun c : Char => c.toNat < 128) cs

variable {cs : List Char}

theorem Ascii.tail {c : Char} (ascii : Ascii (c :: cs)) : Ascii cs := fun d mem => ascii d (.tail _ mem)

theorem upper_of_ascii (ascii : Ascii cs) : upper cs = cs.map Char.toUpper := by
  induction cs with
  | nil => rfl
  | cons c rest ih =>
    have here : Case.upperChar c = [c.toUpper] := if_pos (ascii c (.head _))
    rw [upper, List.flatMap_cons, here, ← upper, ih ascii.tail, List.map_cons, List.singleton_append]

/-- What stands before a letter counts for a sigma only, which is not ASCII. -/
theorem lowerAfter_of_ascii (before : List Char) (ascii : Ascii cs) :
    Case.lowerAfter before cs = cs.map Char.toLower := by
  induction cs generalizing before with
  | nil => rfl
  | cons c rest ih =>
    have small := ascii c (.head _)
    have plain : c ≠ 'Σ' := by
      rintro rfl
      exact absurd small (by decide)
    rw [Case.lowerAfter, Case.lowerBetween, if_neg plain, Case.lowerChar, if_pos small, ih _ ascii.tail,
      List.map_cons, List.singleton_append]

theorem lower_of_ascii (ascii : Ascii cs) : lower cs = cs.map Char.toLower := lowerAfter_of_ascii [] ascii

section Letters

variable {c : Char}

theorem isUpper_iff_toNat : c.isUpper = true ↔ 65 ≤ c.toNat ∧ c.toNat ≤ 90 := by
  show decide ('A'.val ≤ c.val ∧ c.val ≤ 'Z'.val) = true ↔ _
  rw [decide_eq_true_iff]
  exact Iff.rfl

theorem isLower_iff_toNat : c.isLower = true ↔ 97 ≤ c.toNat ∧ c.toNat ≤ 122 := by
  show (decide ('a'.val ≤ c.val) && decide (c.val ≤ 'z'.val)) = true ↔ _
  rw [Bool.and_eq_true, decide_eq_true_iff, decide_eq_true_iff]
  exact Iff.rfl

theorem isAlpha_eq (c : Char) : c.isAlpha = (c.isUpper || c.isLower) := rfl

theorem toNat_toLower (upper : c.isUpper = true) : c.toLower.toNat = c.toNat + 32 := by
  have bounds := isUpper_iff_toNat.1 upper
  have large : c.val ≥ 'A'.val ∧ c.val ≤ 'Z'.val := bounds
  have moved : c.toLower.val = c.val + ('a'.val - 'A'.val) := by
    unfold Char.toLower
    rw [dif_pos large]
  have sum : c.toLower.toNat = (c.toNat + 32) % 4294967296 := by
    rw [← Char.toNat_val, moved, UInt32.toNat_add]
    rfl
  omega

theorem toNat_toUpper (lower : c.isLower = true) : c.toUpper.toNat + 32 = c.toNat := by
  have bounds := isLower_iff_toNat.1 lower
  have small : 'a'.val ≤ c.val ∧ c.val ≤ 'z'.val := bounds
  have moved : c.toUpper.val = c.val + ('A'.val - 'a'.val) := by
    unfold Char.toUpper
    rw [dif_pos small]
  -- the difference of the two rows is negative, so the sum wraps
  have sum : c.toUpper.toNat = (c.toNat + 4294967264) % 4294967296 := by
    rw [← Char.toNat_val, moved, UInt32.toNat_add]
    rfl
  omega

theorem isHexDigit_iff_toNat : isHexDigit c = true ↔
    (48 ≤ c.toNat ∧ c.toNat ≤ 57) ∨ (97 ≤ c.toNat ∧ c.toNat ≤ 102) ∨ (65 ≤ c.toNat ∧ c.toNat ≤ 70) := by
  simp only [isHexDigit, Bool.or_eq_true, Bool.and_eq_true, decide_eq_true_eq, Char.isDigit_iff_toNat, Char.le_def,
    UInt32.le_iff_toNat_le, or_assoc]
  rfl

end Letters
end Text

namespace Node

mutual

/-- The tree with other texts at its colors. -/
def recolor (f : String → String) : Node → Node
  | leaf i t => leaf i (if i.kind = "color" then f t else t)
  | branch i cs => branch i (recolorAll f cs)

/-- The trees with other texts at their colors. -/
def recolorAll (f : String → String) : List Node → List Node
  | [] => []
  | n :: rest => recolor f n :: recolorAll f rest

end

section Recolor

variable (f : String → String)

@[simp] theorem info_recolor (n : Node) : (n.recolor f).info = n.info := by
  cases n <;> rfl

theorem isOf_recolor (n : Node) (kind : String) : (n.recolor f).isOf kind = n.isOf kind := by
  rw [isOf, Node.kind, info_recolor]
  rfl

theorem text?_recolor {n : Node} (color : n.isOf "color" = true) : (n.recolor f).text? = n.text?.map f := by
  cases n with
  | leaf i t =>
    have kind : i.kind = "color" := eq_of_beq color
    rw [recolor, if_pos kind, text?, text?, Option.map_some]
  | branch i cs => rfl

mutual

theorem preorder_recolor : (n : Node) → (n.recolor f).preorder = n.preorder.map (recolor f)
  | leaf i t => rfl
  | branch i cs => by rw [recolor, preorder, preorderAll_recolor cs, preorder, List.map_cons, recolor]

theorem preorderAll_recolor : (ns : List Node) → preorderAll (recolorAll f ns) = (preorderAll ns).map (recolor f)
  | [] => rfl
  | n :: rest => by
    rw [recolorAll, preorderAll, preorder_recolor n, preorderAll_recolor rest, preorderAll, List.map_append]

end

/-- The colors of a tree, in the order of a walk. -/
def colors (tree : Node) : List Node := tree.descendants.filter (·.isOf "color")

theorem colors_recolor (tree : Node) : (tree.recolor f).colors = tree.colors.map (recolor f) := by
  have kinds : (fun n : Node => n.isOf "color") ∘ recolor f = fun n => n.isOf "color" :=
    funext fun n => isOf_recolor f n "color"
  rw [colors, descendants_eq_preorder, preorder_recolor, List.filter_map, kinds, ← descendants_eq_preorder, colors]

end Recolor

/-- The colors of the tree are leaves with ASCII texts. -/
def AsciiColors (tree : Node) : Prop :=
  ∀ n : Node, n.Within tree → n.kind = "color" → ∃ hex, n.text? = some hex ∧ Text.Ascii hex.toList

theorem AsciiColors.text? {tree n : Node} (plain : tree.AsciiColors) (mem : n ∈ tree.colors) :
    n.isOf "color" = true ∧ ∃ hex, n.text? = some hex ∧ Text.Ascii hex.toList := by
  obtain ⟨walked, color⟩ := List.mem_filter.1 mem
  exact ⟨color, plain n (mem_descendants_iff.1 walked) (eq_of_beq color)⟩

end Node

namespace Rule

namespace HexCase

namespace Style

/-- The other style. -/
def other : Style → Style
  | lowercase => uppercase
  | uppercase => lowercase

/-- Whether `c` is an ASCII letter that the style does not want. -/
def unwantedB : Style → Char → Bool
  | lowercase => Char.isUpper
  | uppercase => Char.isLower

/-- The ASCII letter `c` in the style; other characters stay as they are. -/
def convert : Style → Char → Char
  | lowercase => Char.toLower
  | uppercase => Char.toUpper

/-- The text with its ASCII letters in the style. -/
def recase (style : Style) (text : String) : String := String.ofList (text.toList.map style.convert)

variable (style : Style) {c : Char}

theorem convert_eq_self (wanted : style.unwantedB c = false) : style.convert c = c := by
  cases style with
  | lowercase => exact dif_neg (of_decide_eq_false wanted)
  | uppercase =>
    refine dif_neg fun small => ?_
    have lower : c.isLower = true := Text.isLower_iff_toNat.2 small
    exact absurd (wanted.symm.trans lower) Bool.false_ne_true

/-- An unwanted letter and its conversion are 32 places apart, one in each row of letters. -/
theorem toNat_convert (unwanted : style.unwantedB c = true) :
    (65 ≤ c.toNat ∧ c.toNat ≤ 90 ∧ (style.convert c).toNat = c.toNat + 32) ∨
      (97 ≤ c.toNat ∧ c.toNat ≤ 122 ∧ (style.convert c).toNat + 32 = c.toNat) := by
  cases style with
  | lowercase =>
    obtain ⟨low, high⟩ := Text.isUpper_iff_toNat.1 unwanted
    exact Or.inl ⟨low, high, Text.toNat_toLower unwanted⟩
  | uppercase =>
    obtain ⟨low, high⟩ := Text.isLower_iff_toNat.1 unwanted
    exact Or.inr ⟨low, high, Text.toNat_toUpper unwanted⟩

theorem unwantedB_convert (c : Char) : style.unwantedB (style.convert c) = false := by
  cases unwanted : style.unwantedB c with
  | false => rw [style.convert_eq_self unwanted, unwanted]
  | true =>
    have apart := style.toNat_convert unwanted
    rw [Bool.eq_false_iff]
    intro still
    cases style with
    | lowercase =>
      have before := Text.isUpper_iff_toNat.1 unwanted
      have after := Text.isUpper_iff_toNat.1 still
      omega
    | uppercase =>
      have before := Text.isLower_iff_toNat.1 unwanted
      have after := Text.isLower_iff_toNat.1 still
      omega

theorem convert_eq_self_iff : style.convert c = c ↔ style.unwantedB c = false := by
  refine ⟨fun same => ?_, style.convert_eq_self⟩
  rw [← same]
  exact style.unwantedB_convert c

theorem toNat_convert_lt (small : c.toNat < 128) : (style.convert c).toNat < 128 := by
  cases unwanted : style.unwantedB c with
  | false => rwa [style.convert_eq_self unwanted]
  | true =>
    have apart := style.toNat_convert unwanted
    omega

/-- A hexadecimal digit is one in either case. -/
theorem isHexDigit_convert (c : Char) : Text.isHexDigit (style.convert c) = Text.isHexDigit c := by
  cases unwanted : style.unwantedB c with
  | false => rw [style.convert_eq_self unwanted]
  | true =>
    have apart := style.toNat_convert unwanted
    rw [Bool.eq_iff_iff, Text.isHexDigit_iff_toNat, Text.isHexDigit_iff_toNat]
    omega

theorem isLetter_iff (small : c.toNat < 128) :
    Text.isLetter c = true ↔ style.unwantedB c = true ∨ style.other.unwantedB c = true := by
  rw [Text.isLetter, if_pos small, Text.isAlpha_eq, Bool.or_eq_true]
  cases style with
  | lowercase => rfl
  | uppercase => exact or_comm

theorem eq_map_convert_iff {hex : List Char} :
    hex = hex.map style.convert ↔ ∀ c ∈ hex, style.unwantedB c = false := by
  have each : hex.map id = hex.map style.convert ↔ ∀ c ∈ hex, id c = style.convert c := List.map_inj_left
  simp only [List.map_id, id, eq_comm (b := style.convert _), convert_eq_self_iff] at each
  exact each

/-- The whole-text comparisons on an ASCII text. -/
theorem acceptsB_eq {hex : List Char} (ascii : Text.Ascii hex) :
    style.acceptsB hex = (hex == hex.map style.convert && hex != hex.map style.other.convert) := by
  cases style with
  | lowercase =>
    show Text.isLowerCase hex = _
    rw [Text.isLowerCase, Text.lower_of_ascii ascii, Text.upper_of_ascii ascii]
    rfl
  | uppercase =>
    show Text.isUpperCase hex = _
    rw [Text.isUpperCase, Text.lower_of_ascii ascii, Text.upper_of_ascii ascii]
    rfl

end Style

/-- **A color offends by single letters.** An ASCII text is not clean exactly when it has a letter that the style does
not want. -/
theorem cleanB_eq_false_iff (style : Style) {hex : List Char} (ascii : Text.Ascii hex) :
    cleanB style hex = false ↔ ∃ c ∈ hex, style.unwantedB c = true := by
  have letters : hex.any Text.isLetter = true ↔
      (∃ c ∈ hex, style.unwantedB c = true) ∨ ∃ c ∈ hex, style.other.unwantedB c = true := by
    rw [List.any_eq_true, ← exists_or]
    refine exists_congr fun c => ?_
    rw [← and_or_left]
    exact and_congr_right fun mem => style.isLetter_iff (ascii c mem)
  have accepts : style.acceptsB hex = true ↔
      (¬ ∃ c ∈ hex, style.unwantedB c = true) ∧ ∃ c ∈ hex, style.other.unwantedB c = true := by
    rw [style.acceptsB_eq ascii, Bool.and_eq_true, beq_iff_eq, bne_iff_ne, Ne, style.eq_map_convert_iff,
      style.other.eq_map_convert_iff]
    simp
  -- clean is to have no letters or to be accepted, and acceptance asks for a letter of the wanted case
  rw [cleanB, Bool.or_eq_false_iff, Bool.not_eq_false', letters, Bool.eq_false_iff, Ne, accepts]
  constructor
  · rintro ⟨unwanted | wanted, rejected⟩
    · exact unwanted
    · exact Decidable.not_not.1 fun none => rejected ⟨none, wanted⟩
  · intro unwanted
    exact ⟨Or.inl unwanted, fun accepted => accepted.1 unwanted⟩

/-- The rule takes a color with this text for an offence. -/
def Offends (style : Style) (i : NodeInfo) (hex : String) : Prop :=
  ∃ message, checkColor style (.leaf i hex) = some (.offence (.leaf i hex) message)

theorem offends_iff {style : Style} {i : NodeInfo} {hex : String} (ascii : Text.Ascii hex.toList) :
    Offends style i hex ↔ ∃ c ∈ hex.toList, style.unwantedB c = true := by
  rw [← cleanB_eq_false_iff style ascii, Offends, checkColor, Node.text?]
  cases clean : cleanB style hex.toList <;> simp [clean]

/-- A color in the style has no unwanted letter left. -/
theorem checkColor_recase (style : Style) {n : Node} (color : n.isOf "color" = true) {hex : String}
    (read : n.text? = some hex) (ascii : Text.Ascii hex.toList) :
    checkColor style (n.recolor style.recase) = none := by
  have recased : Text.Ascii (hex.toList.map style.convert) := by
    intro d mem
    obtain ⟨c, here, rfl⟩ := List.mem_map.1 mem
    exact style.toNat_convert_lt (ascii c here)
  have clean : cleanB style (hex.toList.map style.convert) = true := by
    rw [← Bool.not_eq_false, cleanB_eq_false_iff style recased]
    rintro ⟨d, mem, unwanted⟩
    obtain ⟨c, -, rfl⟩ := List.mem_map.1 mem
    rw [style.unwantedB_convert] at unwanted
    cases unwanted
  rw [checkColor, Node.text?_recolor _ color, read]
  simp only [Option.map_some, Style.recase, String.toList_ofList, clean, if_true]

theorem detect_recolor (style : Style) (severity : Severity) (context : FileContext) {tree : Node}
    (plain : tree.AsciiColors) :
    ((rule style).withSeverity severity).detect context (tree.recolor style.recase) .empty = ⟨.empty, none⟩ := by
  have none : (tree.recolor style.recase).colors.filterMap (checkColor style) = [] := by
    rw [Node.colors_recolor, List.filterMap_map, List.filterMap_eq_nil_iff]
    intro n mem
    obtain ⟨color, hex, read, ascii⟩ := plain.text? mem
    exact checkColor_recase style color read ascii
  show record _ _ ((tree.recolor style.recase).colors.filterMap (checkColor style)) _ = _
  rw [none, record]

end HexCase

namespace HexDigits

/-- The colors of a tree, in the order of a walk: what each carries, and whether it is valid. -/
def verdicts (tree : Node) : List (NodeInfo × Bool) :=
  tree.colors.map fun n => (n.info, (checkColor n).isNone)

theorem isHexColor_convert (style : HexCase.Style) (hex : List Char) :
    Text.isHexColor (hex.map style.convert) = Text.isHexColor hex := by
  have digits : Text.isHexDigit ∘ style.convert = Text.isHexDigit := funext style.isHexDigit_convert
  rw [Text.isHexColor, List.length_map, List.all_map, digits, Text.isHexColor]

theorem isNone_checkColor_recase (style : HexCase.Style) {n : Node} (color : n.isOf "color" = true) :
    (checkColor (n.recolor style.recase)).isNone = (checkColor n).isNone := by
  rw [checkColor, Node.text?_recolor _ color, checkColor]
  cases n.text? with
  | none => rfl
  | some hex =>
    simp only [Option.map_some, HexCase.Style.recase, String.toList_ofList, isHexColor_convert]
    split <;> rfl

theorem verdicts_recolor (style : HexCase.Style) (tree : Node) :
    verdicts (tree.recolor style.recase) = verdicts tree := by
  rw [verdicts, Node.colors_recolor, List.map_map]
  refine List.map_congr_left fun n mem => ?_
  rw [Function.comp, Node.info_recolor, isNone_checkColor_recase style (List.mem_filter.1 mem).2]

end HexDigits

namespace HexCase

/-- **ASCII colors, letter by letter.** With the style lowercase an ASCII color is an offence exactly when it has a
letter A-Z, and with the style uppercase exactly when it has a letter a-z. So it is clean under both styles exactly when
it has no letter, and an offence under both exactly when it has letters of both cases. Where all colors of a tree are
ASCII leaves, writing each in a style leaves the rule for that style nothing to record, and each color is as valid as
before. -/
theorem ascii_colors_letter_by_letter (severity : Severity) (context : FileContext) :
    (∀ (i : NodeInfo) (hex : String), Text.Ascii hex.toList →
      (Offends .lowercase i hex ↔ ∃ c ∈ hex.toList, c.isUpper = true) ∧
      (Offends .uppercase i hex ↔ ∃ c ∈ hex.toList, c.isLower = true) ∧
      (¬ Offends .lowercase i hex ∧ ¬ Offends .uppercase i hex ↔ ∀ c ∈ hex.toList, c.isAlpha = false) ∧
      (Offends .lowercase i hex ∧ Offends .uppercase i hex ↔
        (∃ c ∈ hex.toList, c.isUpper = true) ∧ ∃ c ∈ hex.toList, c.isLower = true)) ∧
    ∀ tree : Node, tree.AsciiColors → ∀ style : Style,
      ((rule style).withSeverity severity).detect context (tree.recolor style.recase) .empty = ⟨.empty, none⟩ ∧
      HexDigits.verdicts (tree.recolor style.recase) = HexDigits.verdicts tree := by
  refine ⟨fun i hex ascii => ?_, fun tree plain style => ?_⟩
  · have lower : Offends .lowercase i hex ↔ ∃ c ∈ hex.toList, c.isUpper = true := offends_iff ascii
    have upper : Offends .uppercase i hex ↔ ∃ c ∈ hex.toList, c.isLower = true := offends_iff ascii
    refine ⟨lower, upper, ?_, and_congr lower upper⟩
    simp only [lower, upper, Text.isAlpha_eq, Bool.or_eq_false_iff, not_exists, not_and, Bool.not_eq_true, ← forall_and]
  · exact ⟨detect_recolor style severity context plain, HexDigits.verdicts_recolor style tree⟩

section Sample

/-- A valid color of both cases, one that is too long, and a word that is no color. -/
def sampleColors : Node :=
  .branch ⟨"value", .scss, ⟨1, 1⟩, ⟨1, 20⟩, []⟩
    [.leaf ⟨"color", .scss, ⟨1, 2⟩, ⟨1, 4⟩, []⟩ "aB1", .leaf ⟨"color", .scss, ⟨1, 7⟩, ⟨1, 10⟩, []⟩ "FFFF",
      .leaf ⟨"ident", .scss, ⟨1, 12⟩, ⟨1, 16⟩, []⟩ "Größe"]

theorem asciiColors_sample : sampleColors.AsciiColors := by
  intro n inside color
  rw [← Node.mem_descendants_iff, Node.descendants_eq_preorder] at inside
  simp only [sampleColors, Node.preorder, Node.preorderAll, List.singleton_append, List.append_nil, List.mem_cons,
    List.not_mem_nil, or_false] at inside
  obtain rfl | rfl | rfl | rfl := inside
  · exact absurd color (by decide)
  · exact ⟨"aB1", rfl, by decide⟩
  · exact ⟨"FFFF", rfl, by decide⟩
  · exact absurd color (by decide)

/-- The first color is an offence under both styles, and neither is after both have been put in lowercase. -/
theorem ascii_colors_letter_by_letter_sample :
    Text.Ascii "aB1".toList ∧ sampleColors.AsciiColors ∧
    (Offends .lowercase default "aB1" ∧ Offends .uppercase default "aB1") ∧
    ((rule .lowercase).withSeverity .error).detect default (sampleColors.recolor (Style.recase .lowercase)) .empty =
      ⟨.empty, none⟩ ∧
    HexDigits.verdicts (sampleColors.recolor (Style.recase .lowercase)) = HexDigits.verdicts sampleColors := by
  have ascii : Text.Ascii "aB1".toList := by decide
  obtain ⟨letters, trees⟩ := ascii_colors_letter_by_letter .error default
  exact ⟨ascii, asciiColors_sample, (letters default "aB1" ascii).2.2.2.2 ⟨⟨'B', by decide, rfl⟩, 'a', by decide, rfl⟩,
    trees sampleColors asciiColors_sample .lowercase⟩

end Sample
end HexCase
end Rule
end SheetLint
