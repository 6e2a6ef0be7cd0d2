import SheetLint.Text.Pieces

/-!
# Paths

Paths with `/` between their segments. Two paths are the same place when their
components agree: a repeated or final `/` and a `.` that does not lead the path
do not count, `..` is a component of its own. Operations that cut a path keep
the rest of its text as written.
-/

namespace SheetLint.Path
set_option autoImplicit false

/-- A component of a path. -/
inductive Component where
  | root
  | here
  | parent
  | name (text : List Char)
deriving DecidableEq, Repr

/-- The component of a segment; an empty segment and `.` give none. -/
def component? (segment : List Char) : Option Component :=
  if segment = [] ∨ segment = ['.'] then none
  else if segment = ['.', '.'] then some .parent
  else some (.name segment)

/-- Whether a segment gives no component. -/
def idleB (segment : List Char) : Bool :=
  (component? segment).isNone

/-- How a path starts. -/
inductive Lead where
  | root
  | here
  | body
deriving DecidableEq, Repr

/-- How the path starts, and the segments after that. -/
def split (path : List Char) : Lead × List (List Char) :=
  match Text.pieces '/' path with
  | [] :: s :: rest => (.root, s :: rest)
  | ['.'] :: rest => (.here, rest)
  | segments => (.body, segments)

/-- The component of a lead. -/
def Lead.components : Lead → List Component
  | root => [.root]
  | here => [.here]
  | body => []

/-- The components of a path. -/
def components (path : List Char) : List Component :=
  (split path).1.components ++ (split path).2.filterMap component?

/-- Segments with `/` between each two. -/
def joinSegments : List (List Char) → List Char
  | [] => []
  | [s] => s
  | s :: rest => s ++ '/' :: joinSegments rest

/-- The segments without those at the end that give no component. -/
def dropIdleEnd (segments : List (List Char)) : List (List Char) :=
  (segments.reverse.dropWhile idleB).reverse

/-- The segments that follow the given components, if the segments start with them. -/
def after? : List Component → List (List Char) → Option (List (List Char))
  | [], segments => some segments
  | _ :: _, [] => none
  | c :: cs, s :: rest =>
    match component? s with
    | none => after? (c :: cs) rest
    | some c' => if c' = c then after? cs rest else none

/-- The path without what gives no component at its end. -/
def withoutIdleEnd (path : List Char) : List Char :=
  match split path with
  | (.root, rest) => '/' :: joinSegments (dropIdleEnd rest)
  | (.here, rest) => joinSegments (['.'] :: dropIdleEnd rest)
  | (.body, rest) => joinSegments (dropIdleEnd rest)

/-- The part of `path` below `base`, if the components of `path` start with those of `base`. -/
def below? (base path : List Char) : Option (List Char) :=
  match components base with
  | [] => some (withoutIdleEnd path)
  | cs =>
    let (lead, segments) := split path
    if lead.components.isPrefixOf cs then
      (after? (cs.drop lead.components.length) segments).map fun rest =>
        joinSegments (dropIdleEnd (rest.dropWhile idleB))
    else none

/-- The last component of a path, if it is a name. -/
def fileName? (path : List Char) : Option (List Char) :=
  match (components path).getLast? with
  | some (.name text) => some text
  | _ => none

/-- The name up to its last dot and the extension after it. A dot that leads the name does not
count. -/
def splitExtension (name : List Char) : List Char × Option (List Char) :=
  match name.reverse.dropWhile (· != '.') with
  | _ :: d :: stem => ((d :: stem).reverse, some (name.reverse.takeWhile (· != '.')).reverse)
  | _ => (name, none)

/-- The extension of the file that a path names. -/
def extension? (path : List Char) : Option (List Char) :=
  (fileName? path).bind fun name => (splitExtension name).2

/-- The path up to the last dot of its file name, where it names a file. -/
def toStem (path : List Char) : List Char :=
  match (Text.pieces '/' path).reverse.dropWhile idleB with
  | name :: before =>
    if component? name = some .parent then path
    else joinSegments (((splitExtension name).1 :: before).reverse)
  | [] => path

/-- The path without its extension: as many characters as the extension has come off the end, and
what is left of the file name ends at its last dot. -/
def withoutExtension (path : List Char) : List Char :=
  toStem (path.take (path.length - ((extension? path).getD []).length))

/-- Whether a path starts at the root. -/
def absoluteB (path : List Char) : Bool :=
  path.head? == some '/'

/-- The path `path` seen from `base`. -/
def join (base path : List Char) : List Char :=
  if absoluteB path ∨ base = [] then path
  else if base.getLast? = some '/' then base ++ path
  else base ++ '/' :: path

namespace Component

/-- The place of a component among the others. -/
def rank : Component → Nat
  | .root => 0
  | .here => 1
  | .parent => 2
  | .name _ => 3

/-- Comparison of components: the root, then `.`, then `..`, then names by their characters. -/
def compare : Component → Component → Ordering
  | .name a, .name b => compareOfLessAndEq a b
  | a, b => Ord.compare a.rank b.rank

end Component

/-- Comparison component by component; a path comes before those below it. -/
def compareComponents : List Component → List Component → Ordering
  | [], [] => .eq
  | [], _ :: _ => .lt
  | _ :: _, [] => .gt
  | a :: as, b :: bs => (a.compare b).then (compareComponents as bs)

/-- Whether `a` comes before `b` or is the same place. -/
def leB (a b : List Char) : Bool :=
  compareComponents (components a) (components b) != .gt

/-- Whether two paths are the same place. -/
def sameB (a b : List Char) : Bool :=
  components a == components b

end SheetLint.Path
