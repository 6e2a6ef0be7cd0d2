import SheetLint.FileTree
import SheetLint.Glob.Pattern

/-!
# Expanding patterns

A pattern that starts at the root is expanded segment by segment against a file
system. A segment without wildcards is looked up, any other is checked against
the names in the directory in increasing order; `.` and `..` are offered only to
a pattern that starts with a dot. `**` offers everything below the directory to
the segment after it, each directory before what is in it, and as the last
segment stands for the directories. A slash at the end asks for directories.
-/

namespace SheetLint.Glob
set_option autoImplicit false

/-- A segment of a pattern. -/
inductive Segment where
  | segments
  | one (ts : List Token)
deriving DecidableEq, Repr

/-- The segment that a text is. -/
def Segment.parse (text : List Char) : Except Error Segment :=
  match Glob.parse text with
  | .error e => .error e
  | .ok ts => .ok (if ts.contains .anySegments then .segments else .one ts)

/-- The segments that texts are, up to the first that is none. -/
def Segment.parseAll : List (List Char) → Except Error (List Segment)
  | [] => .ok []
  | text :: rest =>
    match Segment.parse text with
    | .error e => .error e
    | .ok s =>
      match Segment.parseAll rest with
      | .error e => .error e
      | .ok ss => .ok (s :: ss)

/-- A place reached: the path taken, the names that lead to it, and what stands there. -/
structure Place where
  path : List Char
  names : List String
  tree : FileTree

namespace Place

/-- The entry of a name in a directory. -/
def entry (p : Place) (e : String × FileTree) : Place :=
  ⟨Path.join p.path e.1.toList, p.names ++ [e.1], e.2⟩

/-- The entries of a directory. -/
def children (p : Place) : List Place := p.tree.entries.map p.entry

mutual

/-- What is below a tree at a path, each place before what is below it. -/
def belowTree (path : List Char) (names : List String) : FileTree → List Place
  | .file _ => []
  | .directory es => belowEntries path names es

/-- The entries of a directory at a path and what is below them. -/
def belowEntries (path : List Char) (names : List String) : List (String × FileTree) → List Place
  | [] => []
  | (name, t) :: rest =>
    let path' := Path.join path name.toList
    ⟨path', names ++ [name], t⟩ :: belowTree path' (names ++ [name]) t ++ belowEntries path names rest

end

/-- All that is below a place. -/
def below (p : Place) : List Place := belowTree p.path p.names p.tree

/-- The directory itself or the one above it, under a path that says so. -/
def dots (fs : FileSystem) (p : Place) (segment : List Char) : List Place :=
  if p.tree.isDirectory then
    let names := if segment = ['.', '.'] then p.names.dropLast else p.names
    (fs.root.find? names).toList.map fun t => ⟨Path.join p.path segment, names, t⟩
  else []

/-- Where a segment without wildcards leads. -/
def enter (fs : FileSystem) (p : Place) (segment : List Char) : List Place :=
  if segment = ['.'] ∨ segment = ['.', '.'] then p.dots fs segment
  else match fs.follow p.names segment with
    | .error _ => []
    | .ok names => (fs.root.find? names).toList.map fun t => ⟨Path.join p.path segment, names, t⟩

/-- Whether the last name that leads to the place fits the tokens. -/
def fitsB (ts : List Token) (p : Place) : Bool :=
  p.names.getLast?.any fun name => acceptsB ts name.toList

/-- The places that tokens offer in a directory: `..` and `.` where the tokens start with a dot and
fit them, then the entries that fit. -/
def select (fs : FileSystem) (ts : List Token) (p : Place) : List Place :=
  let dotted := if ts.head? = some (.char '.') then [['.', '.'], ['.']] else []
  (dotted.filter (acceptsB ts)).flatMap (p.dots fs) ++ p.children.filter (fitsB ts)

/-- The places that the next segment leads to. -/
def step (fs : FileSystem) (ts : List Token) (p : Place) : List Place :=
  match literal? ts with
  | some segment => p.enter fs segment
  | none => p.select fs ts

/-- The places that segments lead to from a place. -/
def expand (fs : FileSystem) : List Segment → Place → List Place
  | [], p => [p]
  | .one ts :: rest, p => (p.step fs ts).flatMap (expand fs rest)
  | .segments :: rest, p => expandBelow fs rest p.below
where
  /-- The places that the segments after `**` lead to, offered the given places. -/
  expandBelow (fs : FileSystem) : List Segment → List Place → List Place
    | [], offered => offered.filter fun p => p.tree.isDirectory
    | .segments :: rest, offered => expandBelow fs rest offered
    | .one ts :: rest, offered => (offered.filter (fitsB ts)).flatMap (expand fs rest)

end Place

/-- The segments of a pattern after the slash it starts with; a slash at the end starts no
segment. -/
def segmentTexts (pattern : List Char) : List (List Char) :=
  let texts := (Text.pieces '/' pattern).tail
  if texts.getLast? = some [] then texts.dropLast else texts

/-- Whether a segment of a pattern has no wildcard. -/
def plainB (text : List Char) : Bool :=
  match parse text with
  | .ok ts => (literal? ts).isSome
  | .error _ => false

/-- The directory that a pattern which starts at the root is expanded in: its segments before the
first that has a wildcard. -/
def base (pattern : List Char) : List Char :=
  '/' :: Path.joinSegments ((segmentTexts pattern).takeWhile plainB)

/-- The paths that a pattern which starts at the root stands for. -/
def expand (fs : FileSystem) (pattern : List Char) : Except Error (List (List Char)) :=
  match parse pattern with
  | .error e => .error e
  | .ok _ =>
    match Segment.parseAll (segmentTexts pattern) with
    | .error e => .error e
    | .ok segments =>
      let places := Place.expand fs segments ⟨['/'], [], fs.root⟩
      let wanted := if pattern.getLast? = some '/' then
        places.filter fun p => p.tree.isDirectory else places
      .ok (wanted.map Place.path)

end SheetLint.Glob
