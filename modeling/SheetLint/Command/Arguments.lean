import SheetLint.Report.Render

/-!
# Command line arguments

The program has options of its own and three commands with options of theirs.
The options on verbosity and on the configuration file may stand before or
after the command; where both give the file, the one after the command counts.
Options are switches or take a value: in the next argument, after `=`, or right
after the letter of a short option; letters of switches may be put together.
After `--` nothing is an option. An option that is given twice is refused, but
for the one that adds exclude patterns.
-/

namespace SheetLint.Command
set_option autoImplicit false

/-- What `check` is asked to do. -/
structure CheckOptions where
  path : Option String := none
  format : Format := .text
  rules : Option String := none
  excludes : List String := []
deriving DecidableEq, Repr

/-- What the program is asked to do. -/
inductive Task where
  | check (options : CheckOptions)
  | listRules
  | init (force : Bool)
deriving DecidableEq, Repr

/-- A task, and the configuration file that was named for it. -/
structure Request where
  config : Option String
  task : Task
deriving DecidableEq, Repr

/-- Why arguments ask for no task. -/
inductive Stop where
  | usage
  | help
  | version
deriving DecidableEq, Repr

/-- Where in the arguments options are read: before the command, or after one. -/
inductive Level where
  | top
  | check
  | listRules
  | init
deriving DecidableEq, Repr

/-- The options. -/
inductive Flag where
  | verbose
  | config
  | format
  | rules
  | exclude
  | force
  | help
  | version
deriving DecidableEq, Repr

namespace Flag

/-- Whether an option takes a value. -/
def takesValue : Flag → Bool
  | config => true
  | format => true
  | rules => true
  | exclude => true
  | _ => false

/-- The name of an option after two dashes. -/
def long : Flag → String
  | verbose => "verbose"
  | config => "config"
  | format => "format"
  | rules => "rules"
  | exclude => "exclude"
  | force => "force"
  | help => "help"
  | version => "version"

/-- The letter of an option after one dash. -/
def short? : Flag → Option Char
  | verbose => some 'v'
  | config => some 'c'
  | format => some 'f'
  | exclude => some 'e'
  | help => some 'h'
  | version => some 'V'
  | _ => none

end Flag

namespace Level

/-- The options that are known at a level. -/
def flags : Level → List Flag
  | top => [.verbose, .config, .help, .version]
  | check => [.verbose, .config, .help, .format, .rules, .exclude]
  | listRules => [.verbose, .config, .help]
  | init => [.verbose, .config, .help, .force]

/-- The level after a command. -/
def ofCommand? (name : String) : Option Level :=
  if name = "check" then some check
  else if name = "list-rules" then some listRules
  else if name = "init" then some init
  else none

end Level

/-- What was read at one level. -/
structure Draft where
  verbose : Bool := false
  config : Option String := none
  format : Option Format := none
  rules : Option String := none
  excludes : List String := []
  force : Bool := false
  path : Option String := none
deriving Repr

namespace Draft

/-- The draft with a switch turned on. -/
def switch (d : Draft) : Flag → Except Stop Draft
  | .verbose => if d.verbose then .error .usage else .ok { d with verbose := true }
  | .force => if d.force then .error .usage else .ok { d with force := true }
  | .help => .error .help
  | .version => .error .version
  | _ => .error .usage

/-- The draft with a value for an option. -/
def set (d : Draft) (flag : Flag) (value : String) : Except Stop Draft :=
  match flag with
  | .config =>
    if d.config.isSome ∨ value = "" then .error .usage else .ok { d with config := some value }
  | .format =>
    match d.format, Format.ofName? value with
    | none, some f => .ok { d with format := some f }
    | _, _ => .error .usage
  | .rules => if d.rules.isSome then .error .usage else .ok { d with rules := some value }
  | .exclude => .ok { d with excludes := d.excludes ++ [value] }
  | _ => .error .usage

/-- The draft with an argument that is no option. -/
def setPath (d : Draft) (level : Level) (value : String) : Except Stop Draft :=
  if level = .check ∧ d.path = none ∧ value ≠ "" then .ok { d with path := some value }
  else .error .usage

end Draft

/-- The draft after the letters of short options, and the option that still wants a value. -/
def readLetters (level : Level) (d : Draft) : List Char → Except Stop (Draft × Option Flag)
  | [] => .ok (d, none)
  | c :: rest =>
    match level.flags.find? fun f => f.short? == some c with
    | none => .error .usage
    | some f =>
      if f.takesValue then
        match rest with
        | [] => .ok (d, some f)
        | '=' :: value => (d.set f (String.ofList value)).map (·, none)
        | value => (d.set f (String.ofList value)).map (·, none)
      else
        match d.switch f with
        | .error stop => .error stop
        | .ok d => readLetters level d rest

/-- The draft after a long option, given without its dashes, and the option if it still wants a
value. -/
def readLong (level : Level) (d : Draft) (text : List Char) : Except Stop (Draft × Option Flag) :=
  let name := String.ofList (text.takeWhile (· != '='))
  match level.flags.find? fun f => f.long == name with
  | none => .error .usage
  | some f =>
    match text.dropWhile (· != '=') with
    | [] => if f.takesValue then .ok (d, some f) else (d.switch f).map (·, none)
    | _ :: value => if f.takesValue then (d.set f (String.ofList value)).map (·, none) else .error .usage

/-- What an argument is, by its first characters. -/
inductive Argument where
  | separator
  | long (text : List Char)
  | letters (text : List Char)
  | plain (text : String)

/-- What an argument is. -/
def Argument.of (argument : String) : Argument :=
  match argument.toList with
  | ['-', '-'] => .separator
  | '-' :: '-' :: text => .long text
  | '-' :: c :: text => .letters (c :: text)
  | _ => .plain argument

/-- The draft after arguments none of which is an option. -/
def readPaths (level : Level) (d : Draft) : List String → Except Stop Draft
  | [] => .ok d
  | value :: rest =>
    match d.setPath level value with
    | .error stop => .error stop
    | .ok d => readPaths level d rest

/-- The draft after arguments at a level, of which `wanting` still wants a value. Before the
command, the first argument that is no option is handed back with those after it. -/
def readLevel (level : Level) (d : Draft) (wanting : Option Flag) :
    List String → Except Stop (Draft × Option (String × List String))
  | [] => if wanting.isSome then .error .usage else .ok (d, none)
  | argument :: rest =>
    match Argument.of argument, wanting with
    | .plain value, some f =>
      match d.set f value with
      | .error stop => .error stop
      | .ok d => readLevel level d none rest
    | .plain value, none =>
      if level = .top then .ok (d, some (value, rest))
      else match d.setPath level value with
        | .error stop => .error stop
        | .ok d => readLevel level d none rest
    | _, some _ => .error .usage
    | .separator, none => (readPaths level d rest).map (·, none)
    | .long text, none =>
      match readLong level d text with
      | .error stop => .error stop
      | .ok (d, wanting) => readLevel level d wanting rest
    | .letters text, none =>
      match readLetters level d text with
      | .error stop => .error stop
      | .ok (d, wanting) => readLevel level d wanting rest

/-- The task of a level's draft. -/
def taskOf (level : Level) (d : Draft) : Except Stop Task :=
  match level with
  | .top => .error .usage
  | .check => .ok (.check ⟨d.path, d.format.getD .text, d.rules, d.excludes⟩)
  | .listRules => .ok .listRules
  | .init => .ok (.init d.force)

/-- The configuration file that two levels name, the inner before the outer, else the one of the
environment. An empty name in the environment is refused where a level relies on it. -/
def configOf (outer inner environment : Option String) : Except Stop (Option String) :=
  if (outer.isNone ∨ inner.isNone) ∧ environment = some "" then .error .usage
  else .ok (inner.or (outer.or environment))

/-- What follows the word `help`: the name of a command at most. -/
def readHelp : List String → Stop
  | [] => .help
  | [name] => if name = "help" ∨ (Level.ofCommand? name).isSome then .help else .usage
  | _ => .usage

/-- What the arguments ask for; `environment` is the configuration file that the environment
names. -/
def parse (environment : Option String) (arguments : List String) : Except Stop Request :=
  match readLevel .top {} none arguments with
  | .error stop => .error stop
  | .ok (_, none) => .error .usage
  | .ok (outer, some (command, rest)) =>
    if command = "help" then .error (readHelp rest)
    else match Level.ofCommand? command with
      | none => .error .usage
      | some level =>
        match readLevel level {} none rest with
        | .error stop => .error stop
        | .ok (inner, _) =>
          match configOf outer.config inner.config environment, taskOf level inner with
          | .ok config, .ok task => .ok ⟨config, task⟩
          | .error stop, _ => .error stop
          | _, .error stop => .error stop

end SheetLint.Command
