/-!
# Vendor-specific property names

A browser's own variant of a property carries a vendor mark in front of the
common name: `-webkit-transition` is a `transition`.
-/

namespace SheetLint.Text
set_option autoImplicit false

/-- The marks of the vendors. -/
def vendorMarks : List String :=
  ["-webkit-", "-moz-", "-ms-", "-o-", "-khtml-"]

/-- The common name of a property: the name without the vendor mark it starts with. A name that is
a mark and nothing else stays as it is. -/
def commonName (name : List Char) : List Char :=
  match vendorMarks.findSome? fun mark => mark.toList.isPrefixOf? name with
  | some (c :: rest) => c :: rest
  | _ => name

end SheetLint.Text
