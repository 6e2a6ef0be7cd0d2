import SheetLint.Rule.Catalog

/-!
# Rules of a configuration

Three options say how the built-in rules are set up. For each there is a relation for what a
value of it means and one for what is wrong with it; an option that is absent has a meaning
too. Every value is in exactly one of the two, and its reader follows (`Follows`), so the
rules of a configuration are a function of the three values, and the first value that is
wrong is the one reported (`Rule.ofConfig_checks_three_options`).
-/

namespace SheetLint
set_option autoImplicit false

/-- A reading follows what an option of `rule` means or what is wrong with it. -/
structure Follows {α : Type} (rule : String) (means : α → Prop) (wrong : OptionProblem → Prop)
    (reading : Except ConfigError α) : Prop where
  ok : ∀ {x}, means x → reading = .ok x
  error : ∀ {problem}, wrong problem → reading = .error (.option rule problem)
  total : (∃ x, means x) ∨ ∃ problem, wrong problem

/-- The message names the option and its rule, then says what is wrong. -/
theorem ConfigError.message_option (rule : String) (problem : OptionProblem) :
    (ConfigError.option rule problem).message =
      "Invalid option '" ++ problem.optionName ++ "' for rule '" ++ rule ++ "': " ++ problem.message :=
  rfl

theorem ConfigError.message_orderEntryType (typeName : String) :
    (ConfigError.option "property-sort-order" (.orderEntryType typeName)).message =
      "Invalid option 'order' for rule 'property-sort-order': custom order entries must be property names, found "
        ++ typeName := by
  have problem : (OptionProblem.orderEntryType typeName).message =
      "custom order entries must be property names, found " ++ typeName := rfl
  rw [message_option, problem, ← String.append_assoc, OptionProblem.optionName]
  simp only [String.reduceAppend]

namespace Order

namespace Preset

theorem ofName?_name (p : Preset) : ofName? p.name = some p := by
  cases p <;> decide

theorem ofName?_unknown {s : String} (unknown : ∀ p : Preset, p.name ≠ s) : ofName? s = none := by
  rw [ofName?, List.find?_eq_none]
  intro p _ same
  exact unknown p (eq_of_beq same)

theorem name_ne_alphabetical (p : Preset) : p.name ≠ "alphabetical" := by
  cases p <;> decide

end Preset

namespace Policy

/-- The policy that an order means: a name stands for itself, a list for its names in order. -/
inductive Means : Option Toml.Value → Policy → Prop where
  | absent : Means none .alphabetical
  | alphabetical : Means (some (.string "alphabetical")) .alphabetical
  | preset (p : Preset) : Means (some (.string p.name)) (.preset p)
  | custom (names : List String) : Means (some (.array (names.map .string))) (.custom (names.map Entry.mk))

/-- What is wrong with an order. In a list it is the first entry that is no text. -/
inductive Wrong : Option Toml.Value → OptionProblem → Prop where
  | name {s : String} (notAlphabetical : s ≠ "alphabetical") (noPreset : ∀ p : Preset, p.name ≠ s) :
    Wrong (some (.string s)) (.unknownOrder s)
  | entry (names : List String) {v : Toml.Value} (notText : v.string? = none) (rest : List Toml.Value) :
    Wrong (some (.array (names.map .string ++ v :: rest))) (.orderEntryType v.typeName)
  | type {v : Toml.Value} (notText : v.string? = none) (notList : ∀ items, v ≠ .array items) :
    Wrong (some v) (.orderType v.typeName)

/-- A list has only texts, or texts up to a first entry that is none. -/
theorem texts_or_first_other (items : List Toml.Value) :
    (∃ names : List String, items = names.map .string) ∨
      ∃ (names : List String) (v : Toml.Value) (rest : List Toml.Value),
        v.string? = none ∧ items = names.map .string ++ v :: rest := by
  induction items with
  | nil => exact .inl ⟨[], rfl⟩
  | cons v items ih =>
    cases text : v.string? with
    | none => exact .inr ⟨[], v, items, text, rfl⟩
    | some s =>
      have isText : v = .string s := by
        cases v <;> cases text
        rfl
      obtain ⟨names, rfl⟩ | ⟨names, w, rest, notText, rfl⟩ := ih
      · exact .inl ⟨s :: names, by rw [isText, List.map_cons]⟩
      · exact .inr ⟨s :: names, w, rest, notText, by rw [isText, List.map_cons, List.cons_append]⟩

theorem find?_texts (names : List String) :
    (names.map Toml.Value.string).find? (·.string?.isNone) = none := by
  rw [List.find?_eq_none]
  intro v among
  obtain ⟨s, -, rfl⟩ := List.mem_map.1 among
  exact Bool.false_ne_true

theorem find?_first_other (names : List String) {v : Toml.Value} (notText : v.string? = none)
    (rest : List Toml.Value) :
    (names.map Toml.Value.string ++ v :: rest).find? (·.string?.isNone) = some v := by
  rw [List.find?_append, find?_texts, Option.none_or, List.find?_cons_of_pos]
  rw [notText]
  rfl

theorem filterMap_texts (names : List String) :
    (names.map Toml.Value.string).filterMap Toml.Value.string? = names := by
  rw [List.filterMap_map]
  exact List.filterMap_some

theorem ofOptions_of_means {rule : String} {options : Toml.Table} {policy : Policy}
    (means : Means (options.get? "order") policy) : ofOptions rule options = .ok policy := by
  unfold ofOptions
  generalize options.get? "order" = value at means
  cases means with
  | absent => rfl
  | alphabetical => rfl
  | preset p => simp only [p.name_ne_alphabetical, if_false, p.ofName?_name]
  | custom names => simp only [find?_texts, filterMap_texts, ofNames]

theorem ofOptions_of_wrong {rule : String} {options : Toml.Table} {problem : OptionProblem}
    (wrong : Wrong (options.get? "order") problem) :
    ofOptions rule options = .error (.option rule problem) := by
  unfold ofOptions
  generalize options.get? "order" = value at wrong
  cases wrong with
  | name notAlphabetical noPreset => simp only [notAlphabetical, if_false, Preset.ofName?_unknown noPreset]
  | entry names notText rest => simp only [find?_first_other names notText rest]
  | @type v notText notList =>
    cases v with
    | string s => cases notText
    | array items => exact absurd rfl (notList items)
    | _ => rfl

theorem means_or_wrong (value : Option Toml.Value) :
    (∃ policy, Means value policy) ∨ ∃ problem, Wrong value problem := by
  cases value with
  | none => exact .inl ⟨_, .absent⟩
  | some v =>
    cases v with
    | string s =>
      by_cases plain : s = "alphabetical"
      · subst plain
        exact .inl ⟨_, .alphabetical⟩
      · by_cases known : ∃ p : Preset, p.name = s
        · obtain ⟨p, rfl⟩ := known
          exact .inl ⟨_, .preset p⟩
        · exact .inr ⟨_, .name plain fun p same => known ⟨p, same⟩⟩
    | array items =>
      obtain ⟨names, rfl⟩ | ⟨names, w, rest, notText, rfl⟩ := texts_or_first_other items
      · exact .inl ⟨_, .custom names⟩
      · exact .inr ⟨_, .entry names notText rest⟩
    | _ =>
      refine .inr ⟨_, .type rfl ?_⟩
      intro items same
      cases same

/-- The reader of the order of declarations. -/
theorem follows_ofOptions (rule : String) (options : Toml.Table) :
    Follows rule (Means (options.get? "order")) (Wrong (options.get? "order")) (ofOptions rule options) where
  ok := ofOptions_of_means
  error := ofOptions_of_wrong
  total := means_or_wrong _

end Policy
end Order

namespace Rule

namespace HexCase

/-- The style that a value of the option means. -/
inductive Means : Option Toml.Value → Style → Prop where
  | absent : Means none .lowercase
  | named (style : Style) : Means (some (.string style.name)) style

/-- Any value but the name of a style is wrong, and reported whole. -/
inductive Wrong : Option Toml.Value → OptionProblem → Prop where
  | value {v : Toml.Value} (noStyle : ∀ style : Style, v ≠ .string style.name) : Wrong (some v) (.styleValue v)

theorem styleOf_of_means {options : Toml.Table} {style : Style} (means : Means (options.get? "style") style) :
    styleOf options = .ok style := by
  unfold styleOf
  generalize options.get? "style" = value at means
  cases means with
  | absent => rfl
  | named style => cases style <;> rfl

theorem styleOf_of_wrong {options : Toml.Table} {problem : OptionProblem}
    (wrong : Wrong (options.get? "style") problem) : styleOf options = .error (.option HexCase.name problem) := by
  unfold styleOf
  generalize options.get? "style" = value at wrong
  cases wrong with
  | @value v noStyle =>
    cases v with
    | string s =>
      have notLower : s ≠ "lowercase" := fun same => noStyle .lowercase (congrArg _ same)
      have notUpper : s ≠ "uppercase" := fun same => noStyle .uppercase (congrArg _ same)
      simp only [notLower, notUpper, if_false]
    | _ => rfl

/-- The reader of the case of colors. -/
theorem follows_styleOf (options : Toml.Table) :
    Follows HexCase.name (Means (options.get? "style")) (Wrong (options.get? "style")) (styleOf options) where
  ok := styleOf_of_means
  error := styleOf_of_wrong
  total := by
    cases options.get? "style" with
    | none => exact .inl ⟨_, .absent⟩
    | some v =>
      by_cases known : ∃ style : Style, v = .string style.name
      · obtain ⟨style, rfl⟩ := known
        exact .inl ⟨_, .named style⟩
      · exact .inr ⟨_, .value fun style same => known ⟨style, same⟩⟩

end HexCase

namespace BlockSpacing

/-- The mode that a value of the option means. -/
inductive Means : Option Toml.Value → Bool → Prop where
  | absent : Means none true
  | given (mode : Bool) : Means (some (.boolean mode)) mode

/-- Only a boolean is a mode; of any other value the type is reported. -/
inductive Wrong : Option Toml.Value → OptionProblem → Prop where
  | type {v : Toml.Value} (notBoolean : ∀ b, v ≠ .boolean b) : Wrong (some v) (.notBoolean v.typeName)

/-- The reader of the mode of block spacing. -/
theorem follows_modeOf (options : Toml.Table) :
    Follows BlockSpacing.name (Means (options.get? "include")) (Wrong (options.get? "include")) (modeOf options) where
  ok := by
    intro mode means
    unfold modeOf
    generalize options.get? "include" = value at means
    cases means <;> rfl
  error := by
    intro problem wrong
    unfold modeOf
    generalize options.get? "include" = value at wrong
    cases wrong with
    | @type v notBoolean =>
      cases v with
      | boolean b => exact absurd rfl (notBoolean b)
      | _ => rfl
  total := by
    cases options.get? "include" with
    | none => exact .inl ⟨_, .absent⟩
    | some v =>
      by_cases known : ∃ b, v = .boolean b
      · obtain ⟨b, rfl⟩ := known
        exact .inl ⟨_, .given b⟩
      · exact .inr ⟨_, .type fun b same => known ⟨b, same⟩⟩

end BlockSpacing

/-- The value that a configuration gives an option of a rule. -/
def optionIn (config : Config) (rule option : String) : Option Toml.Value :=
  (config.setting? rule).bind (·.option? option)

theorem get?_optionsIn (config : Config) (rule option : String) :
    (optionsIn config rule).get? option = optionIn config rule option := by
  unfold optionsIn optionIn
  cases config.setting? rule with
  | none => rfl
  | some setting => rfl

/-- What the three values make of the built-in rules. The first value that is wrong, in the
order of the arguments, is reported. -/
inductive Built (order style mode : Option Toml.Value) : Except ConfigError (List Rule) → Prop where
  | rules {p : Order.Policy} {s : HexCase.Style} {m : Bool} (policy : Order.Policy.Means order p)
    (casing : HexCase.Means style s) (spacing : BlockSpacing.Means mode m) :
    Built order style mode (.ok
      [DeclarationOrder.rule p, HexDigits.rule, HexCase.rule s, ZeroUnit.rule, BlockSpacing.rule m])
  | order {problem : OptionProblem} (wrong : Order.Policy.Wrong order problem) :
    Built order style mode (.error (.option "property-sort-order" problem))
  | style {p : Order.Policy} {problem : OptionProblem} (policy : Order.Policy.Means order p)
    (wrong : HexCase.Wrong style problem) : Built order style mode (.error (.option "hex-notation" problem))
  | mode {p : Order.Policy} {s : HexCase.Style} {problem : OptionProblem} (policy : Order.Policy.Means order p)
    (casing : HexCase.Means style s) (wrong : BlockSpacing.Wrong mode problem) :
    Built order style mode (.error (.option "empty-line-between-blocks" problem))

/-- The order of declarations that a configuration gives. -/
def orderIn (config : Config) : Option Toml.Value := optionIn config "property-sort-order" "order"

/-- The case of colors that a configuration gives. -/
def styleIn (config : Config) : Option Toml.Value := optionIn config "hex-notation" "style"

/-- The mode of block spacing that a configuration gives. -/
def modeIn (config : Config) : Option Toml.Value := optionIn config "empty-line-between-blocks" "include"

/-- The options that are read, with their rules. -/
def readOptions : List (String × String) :=
  [("property-sort-order", "order"), ("hex-notation", "style"), ("empty-line-between-blocks", "include")]

section OfConfig

variable (config : Config)

theorem follows_order :
    Follows "property-sort-order" (Order.Policy.Means (orderIn config)) (Order.Policy.Wrong (orderIn config))
      (Order.Policy.ofOptions DeclarationOrder.name (optionsIn config DeclarationOrder.name)) := by
  have follows := Order.Policy.follows_ofOptions DeclarationOrder.name (optionsIn config DeclarationOrder.name)
  rw [get?_optionsIn] at follows
  exact follows

theorem follows_style :
    Follows "hex-notation" (HexCase.Means (styleIn config)) (HexCase.Wrong (styleIn config))
      (HexCase.styleOf (optionsIn config HexCase.name)) := by
  have follows := HexCase.follows_styleOf (optionsIn config HexCase.name)
  rw [get?_optionsIn] at follows
  exact follows

theorem follows_mode :
    Follows "empty-line-between-blocks" (BlockSpacing.Means (modeIn config)) (BlockSpacing.Wrong (modeIn config))
      (BlockSpacing.modeOf (optionsIn config BlockSpacing.name)) := by
  have follows := BlockSpacing.follows_modeOf (optionsIn config BlockSpacing.name)
  rw [get?_optionsIn] at follows
  exact follows

/-- Something becomes of every three values. -/
theorem exists_built : ∃ result, Built (orderIn config) (styleIn config) (modeIn config) result := by
  obtain ⟨p, policy⟩ | ⟨problem, wrong⟩ := (follows_order config).total
  · obtain ⟨s, casing⟩ | ⟨problem, wrong⟩ := (follows_style config).total
    · obtain ⟨m, spacing⟩ | ⟨problem, wrong⟩ := (follows_mode config).total
      · exact ⟨_, .rules policy casing spacing⟩
      · exact ⟨_, .mode policy casing wrong⟩
    · exact ⟨_, .style policy wrong⟩
  · exact ⟨_, .order wrong⟩

variable {config}

theorem ofConfig_of_built {result : Except ConfigError (List Rule)}
    (built : Built (orderIn config) (styleIn config) (modeIn config) result) : ofConfig config = result := by
  unfold ofConfig
  cases built with
  | rules policy casing spacing =>
    rw [(follows_order config).ok policy, (follows_style config).ok casing, (follows_mode config).ok spacing]
    rfl
  | order wrong => rw [(follows_order config).error wrong]
  | style policy wrong => rw [(follows_order config).ok policy, (follows_style config).error wrong]
  | mode policy casing wrong =>
    rw [(follows_order config).ok policy, (follows_style config).ok casing, (follows_mode config).error wrong]

theorem ofConfig_eq_iff {result : Except ConfigError (List Rule)} :
    ofConfig config = result ↔ Built (orderIn config) (styleIn config) (modeIn config) result := by
  constructor
  · intro gives
    obtain ⟨other, built⟩ := exists_built config
    rw [← gives, ofConfig_of_built built]
    exact built
  · exact ofConfig_of_built

/-- An error names an option that is read, and the configuration gives that option a value. -/
theorem named_of_error {e : ConfigError} (failed : ofConfig config = .error e) :
    ∃ rule problem value, e = .option rule problem ∧ (rule, problem.optionName) ∈ readOptions ∧
      optionIn config rule problem.optionName = some value := by
  have built := ofConfig_eq_iff.1 failed
  unfold orderIn styleIn modeIn at built
  cases built with
  | @order problem wrong =>
    generalize given : optionIn config "property-sort-order" "order" = value at wrong
    cases wrong <;> exact ⟨_, _, _, rfl, List.Mem.head _, given⟩
  | @style _ problem _ wrong =>
    generalize given : optionIn config "hex-notation" "style" = value at wrong
    cases wrong
    exact ⟨_, _, _, rfl, .tail _ (.head _), given⟩
  | @mode _ _ problem _ _ wrong =>
    generalize given : optionIn config "empty-line-between-blocks" "include" = value at wrong
    cases wrong
    exact ⟨_, _, _, rfl, .tail _ (.tail _ (.head _)), given⟩

end OfConfig

/-- The rules of a configuration are made from three options and nothing else: what each of
them means sets up its rule, the first that is wrong is reported by its rule and name, and
configurations that give the three the same values have the same rules, whichever rules they
switch off. -/
theorem ofConfig_checks_three_options (config : Config) :
    (∀ result, ofConfig config = result ↔ Built (orderIn config) (styleIn config) (modeIn config) result) ∧
    ((∃ rules, ofConfig config = .ok rules) ↔
      (∃ policy, Order.Policy.Means (orderIn config) policy) ∧ (∃ style, HexCase.Means (styleIn config) style) ∧
        ∃ mode, BlockSpacing.Means (modeIn config) mode) ∧
    (∀ rules, ofConfig config = .ok rules → rules.map Rule.code = ["SL001", "SL002", "SL003", "SL004", "SL005"]) ∧
    (∀ e, ofConfig config = .error e →
      ∃ rule problem value, e = .option rule problem ∧ (rule, problem.optionName) ∈ readOptions ∧
        optionIn config rule problem.optionName = some value) ∧
    (∀ (names : List String) (v : Toml.Value) (rest : List Toml.Value), v.string? = none →
      orderIn config = some (.array (names.map .string ++ v :: rest)) →
      ∃ e, ofConfig config = .error e ∧ e.message =
        "Invalid option 'order' for rule 'property-sort-order': custom order entries must be property names, found "
          ++ v.typeName) ∧
    ∀ other, orderIn other = orderIn config → styleIn other = styleIn config → modeIn other = modeIn config →
      ofConfig other = ofConfig config := by
  refine ⟨fun _ => ofConfig_eq_iff, ⟨?_, ?_⟩, ?_, fun e => named_of_error, ?_, ?_⟩
  · intro ⟨rules, made⟩
    cases ofConfig_eq_iff.1 made with
    | rules policy casing spacing => exact ⟨⟨_, policy⟩, ⟨_, casing⟩, ⟨_, spacing⟩⟩
  · intro ⟨⟨_, policy⟩, ⟨_, casing⟩, ⟨_, spacing⟩⟩
    exact ⟨_, ofConfig_of_built (.rules policy casing spacing)⟩
  · intro rules made
    cases ofConfig_eq_iff.1 made with
    | rules => rfl
  · intro names v rest notText given
    have wrong : Order.Policy.Wrong (orderIn config) (.orderEntryType v.typeName) := by
      rw [given]
      exact .entry names notText rest
    exact ⟨_, ofConfig_of_built (.order wrong), ConfigError.message_orderEntryType _⟩
  · intro other sameOrder sameStyle sameMode
    rw [ofConfig_eq_iff, sameOrder, sameStyle, sameMode]
    exact ofConfig_eq_iff.1 rfl

/-- A configuration with a list for the order, of a rule that is off, and a style. -/
def listedConfig (items : List Toml.Value) (style : Toml.Value) : Config where
  rules :=
    [("property-sort-order", ⟨none, [("order", .array items)]⟩), ("hex-notation", ⟨some .error, [("style", style)]⟩)]

/-- One that switches the rules the other way round and says more, with the same order and style. -/
def chattyConfig (items : List Toml.Value) (style : Toml.Value) : Config where
  rules :=
    [("zero-unit", ⟨none, []⟩), ("hex-notation", ⟨none, [("length", .integer 3), ("style", style)]⟩),
      ("property-sort-order", ⟨some .warning, [("order", .array items)]⟩)]

theorem ofConfig_checks_three_options_sample :
    (∃ rules, ofConfig (listedConfig [.string "width", .string "color"] (.string "uppercase")) = .ok rules ∧
      rules.map Rule.code = ["SL001", "SL002", "SL003", "SL004", "SL005"]) ∧
    (∃ e, ofConfig (listedConfig [.string "width", .integer 3, .boolean true] (.integer 1)) = .error e ∧ e.message =
      "Invalid option 'order' for rule 'property-sort-order': custom order entries must be property names, found "
        ++ "integer" ∧ ∃ rule problem, e = .option rule problem ∧ (rule, problem.optionName) ∈ readOptions) ∧
    ofConfig (chattyConfig [.string "width", .integer 3] (.integer 1)) =
      ofConfig (listedConfig [.string "width", .integer 3] (.integer 1)) := by
  refine ⟨?_, ?_, ?_⟩
  · obtain ⟨-, succeeds, codes, -⟩ :=
      ofConfig_checks_three_options (listedConfig [.string "width", .string "color"] (.string "uppercase"))
    obtain ⟨rules, made⟩ := succeeds.2
      ⟨⟨_, Order.Policy.Means.custom ["width", "color"]⟩, ⟨_, HexCase.Means.named .uppercase⟩, ⟨_, BlockSpacing.Means.absent⟩⟩
    exact ⟨rules, made, codes rules made⟩
  · obtain ⟨-, -, -, errors, entries, -⟩ :=
      ofConfig_checks_three_options (listedConfig [.string "width", .integer 3, .boolean true] (.integer 1))
    obtain ⟨e, failed, message⟩ := entries ["width"] (.integer 3) [.boolean true] rfl rfl
    obtain ⟨rule, problem, _, named, among, _⟩ := errors e failed
    exact ⟨e, failed, message, rule, problem, named, among⟩
  · obtain ⟨-, -, -, -, -, agree⟩ :=
      ofConfig_checks_three_options (listedConfig [.string "width", .integer 3] (.integer 1))
    exact agree (chattyConfig [.string "width", .integer 3] (.integer 1)) rfl rfl rfl

end Rule
end SheetLint
