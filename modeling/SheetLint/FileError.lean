/-!
# Failures of file access

Why a file could not be read or written.
-/

namespace SheetLint
set_option autoImplicit false

/-- Why a file could not be read or written. -/
inductive FileError where
  | notFound
  | notDirectory
  | isDirectory
  | invalidText
deriving DecidableEq, Repr, Inhabited

/-- The failure in the system's words. -/
def FileError.message : FileError → String
  | notFound => "No such file or directory (os error 2)"
  | notDirectory => "Not a directory (os error 20)"
  | isDirectory => "Is a directory (os error 21)"
  | invalidText => "stream did not contain valid UTF-8"

end SheetLint
