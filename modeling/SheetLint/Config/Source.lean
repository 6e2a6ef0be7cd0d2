import SheetLint.Config
import SheetLint.FileTree

/-!
# Where the configuration comes from

A file named on the command line wins without a look at whether it is there.
Then the directory of the project is searched, then the directory of the user.
Where nothing is found the defaults apply.
-/

namespace SheetLint
set_option autoImplicit false

/-- What the environment says about configuration. -/
structure Environment where
  /-- The configuration file to use where the command line names none. -/
  config : Option String := none
  /-- The directory of the user's configuration. -/
  configDir : Option String := none
  /-- The home directory of the user. -/
  home : Option String := none
deriving Repr

/-- The file that `init` makes, which is also the first that is looked for in a project. -/
def Config.fileName : String := ".sass-lint.toml"

/-- Where the configuration comes from. -/
inductive ConfigSource where
  | explicit (path : String)
  | project (path : String)
  | global (path : String)
  | default
deriving DecidableEq, Repr

namespace ConfigSource

/-- The file to read, if any. -/
def path? : ConfigSource → Option String
  | explicit path => some path
  | project path => some path
  | global path => some path
  | default => none

/-- Whether the file is the user's. -/
def isGlobal : ConfigSource → Bool
  | global _ => true
  | _ => false

/-- The names that are looked for in a project, in order. -/
def projectNames : List String := [Config.fileName, "sass-lint.toml"]

/-- The directory of the user's configuration. A home directory without a name counts as none. -/
def globalDir? (env : Environment) : Option (List Char) :=
  match env.configDir with
  | some dir => some dir.toList
  | none =>
    (env.home.filter (· ≠ "")).map fun home => Path.join home.toList ".sass-lint".toList

/-- The name of the user's configuration file. -/
def globalName : String := "config.toml"

/-- The files that may be looked for on behalf of a project. -/
def candidates (env : Environment) (project : String) (named : Option String) :
    List (List Char) :=
  named.toList.map String.toList ++
    projectNames.map (fun name => Path.join project.toList name.toList) ++
    (globalDir? env).toList.map (fun dir => Path.join dir globalName.toList)

/-- The file of a name in a directory, where it is there. -/
def existing? (fs : FileSystem) (dir : List Char) (name : String) : Option String :=
  let path := Path.join dir name.toList
  if fs.existsB path then some (String.ofList path) else none

/-- The source for a project. -/
def resolve (fs : FileSystem) (env : Environment) (project : String) (named : Option String) :
    ConfigSource :=
  match named with
  | some path => .explicit path
  | none =>
    match projectNames.findSome? (existing? fs project.toList) with
    | some path => .project path
    | none =>
      match (globalDir? env).bind fun dir => existing? fs dir globalName with
      | some path => .global path
      | none => .default

end ConfigSource

namespace Config

/-- The text without the line end at its end. -/
def dropFinalLineEnd (text : List Char) : List Char :=
  match text.reverse with
  | '\n' :: '\r' :: rest => rest.reverse
  | '\n' :: rest => rest.reverse
  | _ => text

/-- The text of a configuration file. -/
def readText (fs : FileSystem) (path : String) : Except FileError String :=
  (fs.read path.toList).map fun text => String.ofList (dropFinalLineEnd text.toList)

/-- The configuration in a file. -/
def ofFile (fs : FileSystem) (path : String) : Except ConfigError Config :=
  match readText fs path with
  | .error cause => .error (.unreadable path cause)
  | .ok text => parse text

/-- The configuration of a source. -/
def ofSource (fs : FileSystem) (source : ConfigSource) : Except ConfigError Config :=
  match source.path? with
  | none => .ok {}
  | some path => ofFile fs path

end Config
end SheetLint
