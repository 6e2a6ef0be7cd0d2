import SheetLint.Node
import SheetLint.Path

/-!
# The file being linted

A dump stands for a stylesheet: it is reported under its path below the root,
and a dump named after its stylesheet with `.json` added is reported under the
stylesheet's own name.
-/

namespace SheetLint
set_option autoImplicit false

/-- The file that a rule is looking at. -/
structure FileContext where
  path : String
  relativePath : String
  dialect : Dialect
deriving DecidableEq, Repr, Inhabited

namespace FileContext

/-- Whether the text is the file extension of a dialect. -/
def isStylesheetExtension (extension : List Char) : Bool :=
  (Dialect.ofName? (String.ofList extension)).isSome

/-- The path of the stylesheet that a dump stands for. -/
def sourcePath (path : List Char) : List Char :=
  if Path.extension? path = some ['j', 's', 'o', 'n'] ∧
      (Path.extension? (Path.withoutExtension path)).any isStylesheetExtension then
    Path.withoutExtension path
  else path

/-- The context of the tree at `path`, for a run at `root`. A path that is not below the root is
reported as it is. -/
def of (path root : String) (tree : Node) : FileContext :=
  let relative := (Path.below? root.toList path.toList).getD path.toList
  ⟨path, String.ofList (sourcePath relative), tree.dialect⟩

end FileContext
end SheetLint
