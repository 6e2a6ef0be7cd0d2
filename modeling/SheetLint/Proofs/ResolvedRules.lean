import Mathlib.Data.List.Forall2
import SheetLint.Config
import SheetLint.Proofs.Utf8Order

/-!
# Resolving the entries for rules

A configuration takes all of its entries for rules or none. An entry is good if it is a level, or
a pair of a level and a table of options (`Setting.Gives`), and a text whose entries are all good
is a configuration that answers as the entries say. Otherwise the bad entry with the least key is
reported. Entries are resolved in the order of a table, so what makes that entry the least is that
a table keeps its keys in increasing order (`increasing_ofEntries`).
-/

namespace SheetLint
set_option autoImplicit false

namespace Toml.Table

/-- The keys stand in increasing order, so that none stands twice. -/
def Increasing (t : Table) : Prop := t.Pairwise fun a b => a.1 < b.1

theorem mem_insert {t : Table} {key : String} {v : Value} {e : String × Value} (mem : e ∈ t.insert key v) :
    e = (key, v) ∨ e ∈ t := by
  fun_induction Table.insert t key v with
  | case1 => exact Or.inl (List.mem_singleton.1 mem)
  | case2 => exact List.mem_cons.1 mem
  | case3 k w rest =>
    rcases List.mem_cons.1 mem with here | later
    · exact Or.inl here
    · exact Or.inr (List.mem_cons_of_mem _ later)
  | case4 k w rest _ _ ih =>
    rcases List.mem_cons.1 mem with rfl | later
    · exact Or.inr List.mem_cons_self
    · exact (ih later).imp_right (List.mem_cons_of_mem _)

theorem Increasing.insert {t : Table} (increasing : t.Increasing) (key : String) (v : Value) :
    (t.insert key v).Increasing := by
  fun_induction Table.insert t key v with
  | case1 => exact List.pairwise_singleton ..
  | case2 k w rest less =>
    obtain ⟨above, -⟩ := List.pairwise_cons.1 increasing
    refine List.pairwise_cons.2 ⟨?_, increasing⟩
    intro e mem
    rcases List.mem_cons.1 mem with rfl | mem
    · exact less
    · exact String.lt_trans less (above e mem)
  | case3 w rest =>
    obtain ⟨above, rest_increasing⟩ := List.pairwise_cons.1 increasing
    exact List.pairwise_cons.2 ⟨above, rest_increasing⟩
  | case4 k w rest not_less differs ih =>
    obtain ⟨above, rest_increasing⟩ := List.pairwise_cons.1 increasing
    have less : k < key := by
      apply String.not_le.1
      intro below
      exact differs (String.le_antisymm below (String.not_lt.1 not_less))
    refine List.pairwise_cons.2 ⟨?_, ih rest_increasing⟩
    intro e mem
    rcases mem_insert mem with rfl | mem
    · exact less
    · exact above e mem

theorem increasing_ofEntries (entries : List (String × Value)) : (ofEntries entries).Increasing := by
  have from_any : ∀ t : Table, t.Increasing → (entries.foldl (fun t e => t.insert e.1 e.2) t).Increasing := by
    induction entries with
    | nil => exact fun _ increasing => increasing
    | cons e entries ih => exact fun t increasing => ih _ (increasing.insert e.1 e.2)
  exact from_any [] List.Pairwise.nil

/-- In a table the value of a key is the one that stands with it. -/
theorem Increasing.mem_iff {t : Table} (increasing : t.Increasing) {key : String} {v : Value} :
    (key, v) ∈ t ↔ t.get? key = some v := by
  rw [get?, List.lookup_eq_some_iff]
  constructor
  · intro mem
    obtain ⟨before, after, rfl⟩ := List.append_of_mem mem
    refine ⟨before, after, rfl, ?_⟩
    intro e earlier
    have less : e.1 < key := (List.pairwise_append.1 increasing).2.2 e earlier _ List.mem_cons_self
    rw [bne_iff_ne]
    rintro rfl
    exact String.lt_irrefl _ less
  · rintro ⟨before, after, rfl, -⟩
    exact List.mem_append_right _ List.mem_cons_self

end Toml.Table

/-- What a level asks for: nothing for 0, else a severity. -/
inductive Severity.Asks : Int → Option Severity → Prop where
  | off : Asks 0 none
  | warning : Asks 1 (some .warning)
  | error : Asks 2 (some .error)

theorem Severity.Asks.unique {level : Int} {a b : Option Severity} (asks : Asks level a) (asks' : Asks level b) : a = b := by
  cases asks <;> cases asks' <;> rfl

theorem Severity.ofSetting_eq_ok_iff {level : Int} {severity : Option Severity} :
    ofSetting level = .ok severity ↔ Asks level severity := by
  constructor
  · intro ok
    by_cases zero : level = 0
    · subst zero
      cases ok
      exact .off
    by_cases one : level = 1
    · subst one
      cases ok
      exact .warning
    by_cases two : level = 2
    · subst two
      cases ok
      exact .error
    · simp [ofSetting, ofLevel?, zero, one, two] at ok
  · rintro (_ | _ | _) <;> rfl

namespace Setting

/-- The entry gives the level and the setting: a level alone, or one with options. -/
inductive Gives : Toml.Value → Int → Setting → Prop where
  | level {level : Int} {severity : Option Severity} (asks : Severity.Asks level severity) :
    Gives (.integer level) level ⟨severity, []⟩
  | pair {level : Int} {severity : Option Severity} (asks : Severity.Asks level severity) (options : Toml.Table) :
    Gives (.array [.integer level, .table options]) level ⟨severity, options⟩

/-- The entry is good. -/
def Good (v : Toml.Value) : Prop := ∃ level s, Gives v level s

theorem ofLevel_eq_ok_iff {rule : String} {level : Int} {options : Toml.Table} {s : Setting} :
    ofLevel rule level options = .ok s ↔ ∃ severity, Severity.Asks level severity ∧ s = ⟨severity, options⟩ := by
  unfold ofLevel
  split
  · next severity ok =>
    constructor
    · rintro ⟨⟩
      exact ⟨severity, Severity.ofSetting_eq_ok_iff.1 ok, rfl⟩
    · rintro ⟨severity', asks, rfl⟩
      rw [Severity.ofSetting_eq_ok_iff.2 asks] at ok
      cases ok
      rfl
  · next n bad =>
    constructor
    · exact nofun
    · rintro ⟨severity, asks, -⟩
      rw [Severity.ofSetting_eq_ok_iff.2 asks] at bad
      cases bad

theorem resolve_eq_ok_iff {rule : String} {v : Toml.Value} {s : Setting} :
    resolve rule v = .ok s ↔ ∃ level, Gives v level s := by
  constructor
  · intro ok
    unfold resolve at ok
    split at ok
    · next level =>
      obtain ⟨severity, asks, rfl⟩ := ofLevel_eq_ok_iff.1 ok
      exact ⟨level, .level asks⟩
    · next level options =>
      obtain ⟨severity, asks, rfl⟩ := ofLevel_eq_ok_iff.1 ok
      exact ⟨level, .pair asks options⟩
    · cases ok
    · cases ok
  · rintro ⟨level, given⟩
    cases given with
    | level asks => exact ofLevel_eq_ok_iff.2 ⟨_, asks, rfl⟩
    | pair asks options => exact ofLevel_eq_ok_iff.2 ⟨_, asks, rfl⟩

theorem Gives.asks {v : Toml.Value} {level : Int} {s : Setting} (given : Gives v level s) :
    Severity.Asks level s.severity := by
  cases given with
  | level asks => exact asks
  | pair asks options => exact asks

/-- An entry gives one setting only. -/
theorem Gives.unique {v : Toml.Value} {level level' : Int} {s s' : Setting} (given : Gives v level s)
    (given' : Gives v level' s') : s = s' := by
  have ok : resolve "" v = .ok s := resolve_eq_ok_iff.2 ⟨level, given⟩
  rw [resolve_eq_ok_iff.2 ⟨level', given'⟩] at ok
  exact (Except.ok.inj ok).symm

/-- A bad entry is reported under the name of its rule. -/
theorem exists_problem_of_error {rule : String} {v : Toml.Value} {e : ConfigError} (bad : resolve rule v = .error e) :
    ∃ problem, e = .setting rule problem := by
  have level {level : Int} {options : Toml.Table} (bad : ofLevel rule level options = .error e) :
      ∃ problem, e = .setting rule problem := by
    unfold ofLevel at bad
    split at bad <;> cases bad
    exact ⟨_, rfl⟩
  unfold resolve at bad
  split at bad
  · exact level bad
  · exact level bad
  · cases bad
    exact ⟨_, rfl⟩
  · cases bad
    exact ⟨_, rfl⟩

/-- An entry is resolved, or its rule is reported. -/
theorem resolve_cases (rule : String) (v : Toml.Value) :
    (∃ level s, Gives v level s ∧ resolve rule v = .ok s) ∨
      ¬Good v ∧ ∃ problem, resolve rule v = .error (.setting rule problem) := by
  cases outcome : resolve rule v with
  | ok s =>
    obtain ⟨level, given⟩ := resolve_eq_ok_iff.1 outcome
    exact Or.inl ⟨level, s, given, rfl⟩
  | error e =>
    obtain ⟨problem, rfl⟩ := exists_problem_of_error outcome
    refine Or.inr ⟨?_, problem, rfl⟩
    rintro ⟨level, s, given⟩
    rw [resolve_eq_ok_iff.2 ⟨level, given⟩] at outcome
    cases outcome

end Setting

namespace Config

open Setting (Gives Good)

/-- The setting answers the entry: it has the entry's key and what the entry gives. -/
def Answers (e : String × Toml.Value) (s : String × Setting) : Prop := s.1 = e.1 ∧ ∃ level, Gives e.2 level s.2

/-- **Entries are resolved up to the first that is bad.** -/
theorem resolveRules_cases (t : Toml.Table) :
    (∃ settings, resolveRules t = .ok settings ∧ List.Forall₂ Answers t settings) ∨
      ∃ before name v after problem, t = before ++ (name, v) :: after ∧ (∀ e ∈ before, Good e.2) ∧ ¬Good v ∧
        resolveRules t = .error (.setting name problem) := by
  induction t with
  | nil => exact Or.inl ⟨[], rfl, .nil⟩
  | cons e rest ih =>
    obtain ⟨name, v⟩ := e
    rcases Setting.resolve_cases name v with ⟨level, s, given, ok⟩ | ⟨bad, problem, error⟩
    · rcases ih with ⟨settings, rest_ok, answers⟩ | ⟨before, key, w, after, problem, rfl, good, bad, error⟩
      · refine Or.inl ⟨(name, s) :: settings, ?_, .cons ⟨rfl, level, given⟩ answers⟩
        simp only [resolveRules, ok, rest_ok]
      · refine Or.inr ⟨(name, v) :: before, key, w, after, problem, rfl, ?_, bad, ?_⟩
        · exact List.forall_mem_cons.2 ⟨⟨level, s, given⟩, good⟩
        · simp only [resolveRules, ok, error]
    · refine Or.inr ⟨[], name, v, rest, problem, rfl, nofun, bad, ?_⟩
      simp only [resolveRules, error]

/-- The configuration says what the entries of a table say. -/
structure Resolves (c : Config) (t : Toml.Table) : Prop where
  keys : c.rules.map Prod.fst = t.map Prod.fst
  settings : ∀ name v, t.get? name = some v → ∃ level s, Gives v level s ∧ c.setting? name = some s
  off : ∀ name, c.enabledB name = false ↔ ∃ v s, t.get? name = some v ∧ Gives v 0 s
  severities : ∀ name v level s, t.get? name = some v → Gives v level s → Severity.Asks level (c.severity? name)
  unmentioned : ∀ name, t.get? name = none → c.setting? name = none ∧ c.severity? name = none

/-- The name is the least of those with a bad entry, by their bytes. -/
structure LeastBad (t : Toml.Table) (name : String) : Prop where
  bad : ∃ v, t.get? name = some v ∧ ¬Good v
  least : ∀ name' v, t.get? name' = some v → ¬Good v → name' = name ∨ Text.utf8 name < Text.utf8 name'

section Answers

variable {t : Toml.Table} {settings : List (String × Setting)}

theorem good_of_answers (answers : List.Forall₂ Answers t settings) : ∀ e ∈ t, Good e.2 := by
  induction answers with
  | nil => exact nofun
  | cons first _ ih =>
    obtain ⟨-, level, given⟩ := first
    exact List.forall_mem_cons.2 ⟨⟨level, _, given⟩, ih⟩

theorem keys_of_answers (answers : List.Forall₂ Answers t settings) : settings.map Prod.fst = t.map Prod.fst := by
  induction answers with
  | nil => rfl
  | cons first _ ih => rw [List.map_cons, List.map_cons, first.1, ih]

/-- Where the table has an entry, the settings have its answer, and elsewhere nothing. -/
theorem lookup_of_answers (answers : List.Forall₂ Answers t settings) (name : String) :
    (t.get? name = none ∧ settings.lookup name = none) ∨
      ∃ v level s, t.get? name = some v ∧ settings.lookup name = some s ∧ Gives v level s := by
  induction answers with
  | nil => exact Or.inl ⟨rfl, rfl⟩
  | @cons e s t settings first _ ih =>
    obtain ⟨key, v⟩ := e
    obtain ⟨key', s⟩ := s
    obtain ⟨rfl, level, given⟩ := first
    simp only [Toml.Table.get?, List.lookup_cons]
    by_cases same : name = key'
    · simp only [same, beq_self_eq_true]
      exact Or.inr ⟨v, level, s, rfl, rfl, given⟩
    · simp only [beq_false_of_ne same]
      exact ih

theorem resolves_of_answers (answers : List.Forall₂ Answers t settings) (scope : Scope) :
    Resolves ⟨scope, settings⟩ t where
  keys := keys_of_answers answers
  settings name v entry := by
    rcases lookup_of_answers answers name with ⟨none, -⟩ | ⟨w, level, s, there, found, given⟩
    · rw [none] at entry
      cases entry
    · rw [there] at entry
      cases entry
      exact ⟨level, s, given, found⟩
  off name := by
    rcases lookup_of_answers answers name with ⟨none, absent⟩ | ⟨v, level, s, there, found, given⟩
    · simp [enabledB, setting?, none, absent]
    · have disabled : enabledB ⟨scope, settings⟩ name = false ↔ s.severity = none := by
        simp [enabledB, setting?, found, Setting.enabledB]
      rw [disabled]
      constructor
      · intro none
        have asks := given.asks
        rw [none] at asks
        cases asks
        exact ⟨v, s, there, given⟩
      · rintro ⟨w, s', entry, given'⟩
        rw [there] at entry
        cases entry
        rw [given.unique given']
        exact given'.asks.unique .off
  severities name v level s entry given := by
    rcases lookup_of_answers answers name with ⟨none, -⟩ | ⟨w, level', s', there, found, given'⟩
    · rw [none] at entry
      cases entry
    · rw [there] at entry
      cases entry
      have same : severity? ⟨scope, settings⟩ name = s.severity := by
        rw [severity?, setting?, found, given.unique given', Option.bind_some]
      rw [same]
      exact given.asks
  unmentioned name entry := by
    rcases lookup_of_answers answers name with ⟨-, absent⟩ | ⟨v, level, s, there, -, -⟩
    · exact ⟨absent, by rw [severity?, setting?, absent, Option.bind_none]⟩
    · rw [there] at entry
      cases entry

end Answers

theorem increasing_of_ruleTable? {i : Toml.Item} {t : Toml.Table} (table : ruleTable? i = some t) : t.Increasing := by
  unfold ruleTable? at table
  split at table
  · obtain ⟨entries, -, rfl⟩ := Option.map_eq_some_iff.1 table
    exact Toml.Table.increasing_ofEntries entries
  · cases table
    exact List.pairwise_singleton ..
  · cases table

/-- The two sections are read on their own, each with a default. -/
theorem sections?_eq_some_iff {document : Toml.Items} {scope : Scope} {t : Toml.Table} :
    sections? document = some (scope, t) ↔
      (document.lookup "analyzer").elim (some .standard) Scope.ofItem? = some scope ∧
        (document.lookup "rules").elim (some []) ruleTable? = some t := by
  unfold sections?
  cases document.lookup "analyzer" <;> cases document.lookup "rules" <;> simp [Option.bind_eq_some_iff, and_comm]

/-- The table of entries for rules has its keys in increasing order. -/
theorem increasing_of_sections? {document : Toml.Items} {scope : Scope} {t : Toml.Table}
    (sections : sections? document = some (scope, t)) : t.Increasing := by
  have rules := (sections?_eq_some_iff.1 sections).2
  cases given : document.lookup "rules" with
  | none =>
    rw [given] at rules
    cases rules
    exact List.Pairwise.nil
  | some i =>
    rw [given] at rules
    exact increasing_of_ruleTable? rules

/-- The first bad entry of a table is the least. -/
theorem leastBad_of_first {before after : Toml.Table} {name : String} {v : Toml.Value}
    (increasing : Toml.Table.Increasing (before ++ (name, v) :: after)) (good : ∀ e ∈ before, Good e.2) (bad : ¬Good v) :
    LeastBad (before ++ (name, v) :: after) name where
  bad := ⟨v, increasing.mem_iff.1 (List.mem_append_right _ List.mem_cons_self), bad⟩
  least name' w entry bad' := by
    rcases List.mem_append.1 (increasing.mem_iff.2 entry) with earlier | later
    · exact absurd (good _ earlier) bad'
    · rcases List.mem_cons.1 later with same | later
      · cases same
        exact Or.inl rfl
      · have rest := (List.pairwise_append.1 increasing).2.1
        exact Or.inr (Text.utf8_lt_iff.2 ((List.pairwise_cons.1 rest).1 _ later))

section Parse

variable {text : String} {document : Toml.Items} {scope : Scope} {table : Toml.Table}

/-- A text with both sections is the configuration of them, if its entries for rules resolve. -/
theorem parse_of_sections (read : Toml.read? text = some document) (sections : sections? document = some (scope, table)) :
    parse text = (resolveRules table).map fun settings => ⟨scope, settings⟩ := by
  simp only [parse, read, ofDocument, sections]
  cases resolveRules table <;> rfl

/-- **Entries for rules are resolved all or none.** Take a text that is read as a scope and a table of
entries for rules. It is a configuration iff every entry is good; then the configuration has the
scope and says what the entries say. Otherwise the error names the least rule with a bad entry. -/
theorem parse_resolves_all_or_none (read : Toml.read? text = some document)
    (sections : sections? document = some (scope, table)) :
    ((∃ c, parse text = .ok c) ↔ ∀ name v, table.get? name = some v → Good v) ∧
      (∀ c, parse text = .ok c → c.scope = scope ∧ c.Resolves table) ∧
      ((∃ name v, table.get? name = some v ∧ ¬Good v) →
        ∃ name problem, parse text = .error (.setting name problem) ∧ LeastBad table name) := by
  have increasing := increasing_of_sections? sections
  have parsed := parse_of_sections read sections
  rcases resolveRules_cases table with ⟨settings, ok, answers⟩ | ⟨before, name, v, after, problem, rfl, good, bad, error⟩
  · have good : ∀ name v, table.get? name = some v → Good v :=
      fun name v entry => good_of_answers answers _ (increasing.mem_iff.2 entry)
    rw [ok] at parsed
    refine ⟨⟨fun _ => good, fun _ => ⟨_, parsed⟩⟩, ?_, ?_⟩
    · intro c is_c
      rw [parsed] at is_c
      cases is_c
      exact ⟨rfl, resolves_of_answers answers scope⟩
    · rintro ⟨name, v, entry, bad⟩
      exact absurd (good name v entry) bad
  · have least := leastBad_of_first increasing good bad
    rw [error] at parsed
    refine ⟨⟨?_, ?_⟩, ?_, fun _ => ⟨name, problem, parsed, least⟩⟩
    · rintro ⟨c, is_c⟩
      rw [parsed] at is_c
      cases is_c
    · intro all_good
      obtain ⟨w, entry, bad⟩ := least.bad
      exact absurd (all_good name w entry) bad
    · intro c is_c
      rw [parsed] at is_c
      cases is_c

end Parse

section Sample

/-- A text with a rule that is off and one with a level and options. -/
def resolvedText : String := "[rules]\nzero-unit = 0\nhex-notation = [2, \x7b\x7d]"

/-- A text with two bad entries, the one with the greater key first. -/
def spoiledText : String := "[rules]\nzero-unit = 7\nhex-notation = [2]"

/-- The document of a text with two entries for rules. -/
def twoRules (zeroUnit hexNotation : Toml.Item) : Toml.Items :=
  [("rules", .table .header [("zero-unit", zeroUnit), ("hex-notation", hexNotation)])]

/-- What such a document says about rules. -/
def ruleEntries (zeroUnit hexNotation : Toml.Value) : Toml.Table :=
  [("hex-notation", hexNotation), ("zero-unit", zeroUnit)]

theorem read_resolvedText :
    Toml.read? resolvedText =
      some (twoRules (.scalar (.integer 0)) (.array [.scalar (.integer 2), .table .inline []])) := by
  with_unfolding_all rfl

theorem read_spoiledText :
    Toml.read? spoiledText = some (twoRules (.scalar (.integer 7)) (.array [.scalar (.integer 2)])) := by
  with_unfolding_all rfl

theorem get?_ruleEntries {zeroUnit hexNotation v : Toml.Value} {name : String}
    (entry : (ruleEntries zeroUnit hexNotation).get? name = some v) :
    (name = "hex-notation" ∧ v = hexNotation) ∨ (name = "zero-unit" ∧ v = zeroUnit) := by
  obtain ⟨before, after, split, -⟩ := List.lookup_eq_some_iff.1 entry
  have mem : (name, v) ∈ ruleEntries zeroUnit hexNotation := by
    rw [split]
    exact List.mem_append_right _ List.mem_cons_self
  simpa [ruleEntries] using mem

theorem parse_resolves_all_or_none_sample :
    (∃ c, parse resolvedText = .ok c ∧ c.enabledB "zero-unit" = false ∧ c.severity? "hex-notation" = some .error) ∧
      ∃ problem, parse spoiledText = .error (.setting "hex-notation" problem) := by
  constructor
  · have sections : sections? (twoRules (.scalar (.integer 0)) (.array [.scalar (.integer 2), .table .inline []])) =
        some (.standard, ruleEntries (.integer 0) (.array [.integer 2, .table []])) := rfl
    obtain ⟨succeeds, resolved, -⟩ := parse_resolves_all_or_none read_resolvedText sections
    obtain ⟨c, ok⟩ := succeeds.2 <| by
      intro name v entry
      rcases get?_ruleEntries entry with ⟨-, rfl⟩ | ⟨-, rfl⟩
      · exact ⟨2, _, .pair .error []⟩
      · exact ⟨0, _, .level .off⟩
    have resolves := (resolved c ok).2
    have off := (resolves.off "zero-unit").2 ⟨_, _, rfl, .level .off⟩
    have asks := resolves.severities "hex-notation" _ 2 _ rfl (.pair .error [])
    exact ⟨c, ok, off, asks.unique .error⟩
  · have sections : sections? (twoRules (.scalar (.integer 7)) (.array [.scalar (.integer 2)])) =
        some (.standard, ruleEntries (.integer 7) (.array [.integer 2])) := rfl
    have bad : ¬Good (.array [.integer 2]) := by
      rintro ⟨_, _, ⟨⟩⟩
    obtain ⟨-, -, fails⟩ := parse_resolves_all_or_none read_spoiledText sections
    obtain ⟨name, problem, error, least⟩ := fails ⟨"hex-notation", _, rfl, bad⟩
    obtain ⟨v, entry, -⟩ := least.bad
    rcases get?_ruleEntries entry with ⟨rfl, -⟩ | ⟨rfl, -⟩
    · exact ⟨problem, error⟩
    · have above : ¬Text.utf8 "zero-unit" < Text.utf8 "hex-notation" := by decide +kernel
      rcases least.least "hex-notation" _ rfl bad with same | less
      · exact absurd same (by decide)
      · exact absurd less above

end Sample
end Config
end SheetLint
