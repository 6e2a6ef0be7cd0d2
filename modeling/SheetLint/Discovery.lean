import SheetLint.Glob.Pattern
import SheetLint.Path

/-!
# Discovering dumps

Which files are linted: the regular files that the include patterns stand for,
less those that an exclude pattern rejects, each once and by path. An exclude
pattern rejects a path that it fits as a whole, and also one that contains the
pattern's text with every `**` taken out.
-/

namespace SheetLint
set_option autoImplicit false

/-- How files are found. -/
structure FileFinder where
  /-- The paths that a pattern stands for. -/
  glob : List Char → Except Glob.Error (List (List Char))
  /-- Whether a path leads to a regular file. -/
  isFile : List Char → Bool

namespace Discovery

/-- The text with every two stars in a row taken out. -/
def withoutDoubleStars : List Char → List Char
  | '*' :: '*' :: rest => withoutDoubleStars rest
  | c :: rest => c :: withoutDoubleStars rest
  | [] => []

/-- Whether a pattern, as far as it is one, fits the whole path. -/
def fitsB (pattern path : List Char) : Bool :=
  match Glob.parse pattern with
  | .ok ts => Glob.acceptsB ts path
  | .error _ => false

/-- Whether an exclude pattern rejects a path. -/
def rejectsB (path pattern : List Char) : Bool :=
  fitsB pattern path ||
    (!(withoutDoubleStars pattern).isEmpty && Text.containsB (withoutDoubleStars pattern) path)

/-- The list without paths that are the same place as the one before them. -/
def dropRepeats : List (List Char) → List (List Char)
  | [] => []
  | [p] => [p]
  | p :: q :: rest =>
    if Path.sameB p q then dropRepeats (p :: rest) else p :: dropRepeats (q :: rest)
termination_by ps => ps.length

/-- The paths that patterns below a root stand for, up to the first bad pattern. -/
def globAll (finder : FileFinder) (root : List Char) :
    List (List Char) → Except Glob.Error (List (List Char))
  | [] => .ok []
  | pattern :: rest =>
    match finder.glob (root ++ '/' :: pattern) with
    | .error e => .error e
    | .ok paths =>
      match globAll finder root rest with
      | .error e => .error e
      | .ok more => .ok (paths ++ more)

/-- The paths of the files to lint. -/
def discover (finder : FileFinder) (root : List Char) (includes excludes : List (List Char)) :
    Except Glob.Error (List (List Char)) :=
  match globAll finder root includes with
  | .error e => .error e
  | .ok paths =>
    let kept := paths.filter fun p => finder.isFile p && !excludes.any (rejectsB p)
    .ok (dropRepeats (kept.mergeSort Path.leB))

end Discovery
end SheetLint
