import SheetLint.FileError
import SheetLint.Path

/-!
# File systems

A file tree is a file with its bytes or a directory with its entries, which are
kept in increasing order of their names. A file system is the tree at the root
and the directory that paths start from unless they start at the root. Paths
are followed segment by segment: each must stand in a directory, `..` in the
root leads to the root.
-/

namespace SheetLint
set_option autoImplicit false

/-- A file or a directory. -/
inductive FileTree where
  | file (content : ByteArray)
  | directory (entries : List (String × FileTree))
deriving Inhabited

namespace FileTree

/-- The entries of a directory; a file has none. -/
def entries : FileTree → List (String × FileTree)
  | file _ => []
  | directory es => es

/-- Whether the tree is a directory. -/
def isDirectory : FileTree → Bool
  | file _ => false
  | directory _ => true

/-- Whether the tree is a file. -/
def isFile (t : FileTree) : Bool := !t.isDirectory

/-- What is reached from a tree by names. -/
def find? : List String → FileTree → Option FileTree
  | [], t => some t
  | name :: rest, t => (t.entries.lookup name).bind (find? rest)

/-- The entries with a tree for a name, in place of the one that was there. -/
def putEntry (name : String) (t : FileTree) : List (String × FileTree) → List (String × FileTree)
  | [] => [(name, t)]
  | (n, u) :: rest =>
    if name < n then (name, t) :: (n, u) :: rest
    else if name = n then (name, t) :: rest
    else (n, u) :: putEntry name t rest

/-- The tree in which `change` has taken effect at the place that names lead to. Directories on the
way are made where there is none. -/
def update (change : Option FileTree → FileTree) : List String → Option FileTree → FileTree
  | [], t => change t
  | name :: rest, t =>
    let es := (t.getD (directory [])).entries
    directory (putEntry name (update change rest (es.lookup name)) es)

/-- The tree with a file at the place that names lead to. -/
def putFile (names : List String) (content : ByteArray) (t : FileTree) : FileTree :=
  update (fun _ => file content) names (some t)

/-- The tree with a directory at the place that names lead to. -/
def putDirectory (names : List String) (t : FileTree) : FileTree :=
  update (fun found => found.getD (directory [])) names (some t)

end FileTree

/-- The tree at the root, and the names that lead to the working directory. -/
structure FileSystem where
  root : FileTree
  workDir : List String

namespace FileSystem

/-- The path of the working directory. -/
def workPath (fs : FileSystem) : List Char :=
  '/' :: Path.joinSegments (fs.workDir.map String.toList)

/-- The names that lead to each place on the way of a path, whether or not anything stands there. -/
def trail : List String → List (List Char) → List (List String)
  | _, [] => []
  | names, segment :: rest =>
    let next := match Path.component? segment with
      | some (.name text) => names ++ [String.ofList text]
      | some _ => names.dropLast
      | none => names
    next :: trail next rest

/-- The file system in which `change` has taken effect where a path leads. Directories on the way
are made where there is none. -/
def plant (fs : FileSystem) (path : List Char) (change : Option FileTree → FileTree) : FileSystem :=
  let places := trail (if Path.absoluteB path then [] else fs.workDir) (Text.pieces '/' path)
  let root := places.dropLast.foldl (fun t names => t.putDirectory names) fs.root
  { fs with root := FileTree.update change (places.getLastD fs.workDir) (some root) }

/-- The file system with a file where a path leads. -/
def plantFile (fs : FileSystem) (path : List Char) (content : ByteArray) : FileSystem :=
  fs.plant path fun _ => .file content

/-- The file system with a directory where a path leads. -/
def plantDirectory (fs : FileSystem) (path : List Char) : FileSystem :=
  fs.plant path fun found => found.getD (.directory [])

/-- Follows one segment of a path from the place that names lead to. -/
def follow (fs : FileSystem) (names : List String) (segment : List Char) :
    Except FileError (List String) :=
  match fs.root.find? names with
  | some (.directory es) =>
    match Path.component? segment with
    | some (.name _) =>
      let name := String.ofList segment
      if (es.lookup name).isSome then .ok (names ++ [name]) else .error .notFound
    | some _ => .ok names.dropLast
    | none => .ok names
  | _ => .error .notDirectory

/-- Follows segments one after the other. -/
def followAll (fs : FileSystem) : List String → List (List Char) → Except FileError (List String)
  | names, [] => .ok names
  | names, segment :: rest =>
    match fs.follow names segment with
    | .error e => .error e
    | .ok names => fs.followAll names rest

/-- The names that lead from the root to where a path leads. -/
def locate (fs : FileSystem) (path : List Char) : Except FileError (List String) :=
  if path = [] then .error .notFound
  else fs.followAll (if Path.absoluteB path then [] else fs.workDir) (Text.pieces '/' path)

/-- What stands where a path leads. -/
def find? (fs : FileSystem) (path : List Char) : Option FileTree :=
  match fs.locate path with
  | .error _ => none
  | .ok names => fs.root.find? names

/-- Whether a path leads anywhere. -/
def existsB (fs : FileSystem) (path : List Char) : Bool := (fs.find? path).isSome

/-- Whether a path leads to a file. -/
def isFile (fs : FileSystem) (path : List Char) : Bool := (fs.find? path).any FileTree.isFile

/-- The text of the file that a path leads to. -/
def read (fs : FileSystem) (path : List Char) : Except FileError String :=
  match fs.locate path with
  | .error e => .error e
  | .ok names =>
    match fs.root.find? names with
    | some (.file content) =>
      match String.fromUTF8? content with
      | some text => .ok text
      | none => .error .invalidText
    | _ => .error .isDirectory

/-- The file system with a text in the file that a path leads to. The directory has to be there,
the file does not. -/
def write (fs : FileSystem) (path : List Char) (text : String) : Except FileError FileSystem :=
  let segments := Text.pieces '/' path
  match fs.followAll (if Path.absoluteB path then [] else fs.workDir) segments.dropLast with
  | .error e => .error e
  | .ok names =>
    match fs.root.find? names, segments.getLast?.bind Path.component? with
    | some (.directory es), some (.name last) =>
      let name := String.ofList last
      if (es.lookup name).any FileTree.isDirectory then .error .isDirectory
      else .ok { fs with root := fs.root.putFile (names ++ [name]) text.toUTF8 }
    | some (.directory _), _ => .error .isDirectory
    | _, _ => .error .notDirectory

end FileSystem
end SheetLint
