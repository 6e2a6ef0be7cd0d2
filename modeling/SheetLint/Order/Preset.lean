import SheetLint.Record

/-!
# Preset orders

Well-known orders of properties, each a list in which related properties stand
together; the place of a name in its list is its rank.
-/

namespace SheetLint.Order
set_option autoImplicit false

/-- A property in an order. -/
structure Entry where
  name : String
deriving DecidableEq, Repr, Inhabited

instance : Record Entry where
  field? e field := if field = "name" then some e.name else none

/-- A well-known order. -/
inductive Preset where
  | recess
  | smacss
  | concentric
deriving DecidableEq, Repr, Inhabited

namespace Preset

/-- The name of a preset. -/
def name : Preset → String
  | recess => "recess"
  | smacss => "smacss"
  | concentric => "concentric"

/-- The presets. -/
def all : List Preset := [recess, smacss, concentric]

/-- The preset of a name. -/
def ofName? (s : String) : Option Preset :=
  all.find? fun p => p.name == s

/-- Positioning, box model, typography, then visuals. -/
def recessNames : List String :=
  ["position", "top", "right", "bottom", "left", "z-index", "display", "float", "width", "height",
    "max-width", "max-height", "min-width", "min-height", "padding", "padding-top", "padding-right",
    "padding-bottom", "padding-left", "margin", "margin-top", "margin-right", "margin-bottom",
    "margin-left", "margin-collapse", "margin-top-collapse", "margin-right-collapse",
    "margin-bottom-collapse", "margin-left-collapse", "overflow", "overflow-x", "overflow-y",
    "clip", "clear", "font", "font-family", "font-size", "font-smoothing", "osx-font-smoothing",
    "font-style", "font-weight", "hyphens", "src", "line-height", "letter-spacing", "word-spacing",
    "color", "text-align", "text-decoration", "text-indent", "text-overflow", "text-rendering",
    "text-size-adjust", "text-shadow", "text-transform", "word-break", "word-wrap", "white-space",
    "vertical-align", "list-style", "list-style-type", "list-style-position", "list-style-image",
    "pointer-events", "cursor", "background", "background-attachment", "background-color",
    "background-image", "background-position", "background-repeat", "background-size", "border",
    "border-collapse", "border-top", "border-right", "border-bottom", "border-left", "border-color",
    "border-image", "border-top-color", "border-right-color", "border-bottom-color",
    "border-left-color", "border-spacing", "border-style", "border-top-style", "border-right-style",
    "border-bottom-style", "border-left-style", "border-width", "border-top-width",
    "border-right-width", "border-bottom-width", "border-left-width", "border-radius",
    "border-top-right-radius", "border-bottom-right-radius", "border-bottom-left-radius",
    "border-top-left-radius", "border-radius-topright", "border-radius-bottomright",
    "border-radius-bottomleft", "border-radius-topleft", "content", "quotes", "outline",
    "outline-offset", "opacity", "filter", "visibility", "size", "zoom", "transform", "box-align",
    "box-flex", "box-orient", "box-pack", "box-shadow", "box-sizing", "table-layout", "animation",
    "animation-delay", "animation-duration", "animation-iteration-count", "animation-name",
    "animation-play-state", "animation-timing-function", "animation-fill-mode", "transition",
    "transition-delay", "transition-duration", "transition-property", "transition-timing-function",
    "background-clip", "backface-visibility", "resize", "appearance", "user-select",
    "interpolation-mode", "direction", "marks", "page", "set-link-source", "unicode-bidi", "speak"]

/-- Box, border, background, text, then the rest. -/
def smacssNames : List String :=
  ["display", "position", "top", "right", "bottom", "left", "flex", "flex-basis", "flex-direction",
    "flex-flow", "flex-grow", "flex-shrink", "flex-wrap", "align-content", "align-items",
    "align-self", "justify-content", "order", "width", "min-width", "max-width", "height",
    "min-height", "max-height", "margin", "margin-top", "margin-right", "margin-bottom",
    "margin-left", "padding", "padding-top", "padding-right", "padding-bottom", "padding-left",
    "float", "clear", "columns", "column-gap", "column-fill", "column-rule", "column-span",
    "column-count", "column-width", "transform", "transform-box", "transform-origin",
    "transform-style", "transition", "transition-delay", "transition-duration",
    "transition-property", "transition-timing-function", "border", "border-top", "border-right",
    "border-bottom", "border-left", "border-width", "border-top-width", "border-right-width",
    "border-bottom-width", "border-left-width", "border-style", "border-top-style",
    "border-right-style", "border-bottom-style", "border-left-style", "border-radius",
    "border-top-left-radius", "border-top-right-radius", "border-bottom-left-radius",
    "border-bottom-right-radius", "border-color", "border-top-color", "border-right-color",
    "border-bottom-color", "border-left-color", "outline", "outline-color", "outline-offset",
    "outline-style", "outline-width", "background", "background-attachment", "background-clip",
    "background-color", "background-image", "background-repeat", "background-position",
    "background-size", "cursor", "color", "font", "font-family", "font-size", "font-smoothing",
    "font-style", "font-variant", "font-weight", "letter-spacing", "line-height", "list-style",
    "text-align", "text-decoration", "text-indent", "text-overflow", "text-rendering",
    "text-shadow", "text-transform", "text-wrap", "white-space", "word-spacing", "border-collapse",
    "border-spacing", "box-shadow", "caption-side", "content", "empty-cells", "opacity", "overflow",
    "quotes", "speak", "table-layout", "vertical-align", "visibility", "z-index"]

/-- From the outside of the box inwards. -/
def concentricNames : List String :=
  ["display", "position", "top", "right", "bottom", "left", "columns", "column-gap", "column-fill",
    "column-rule", "column-span", "column-count", "column-width", "transform", "transform-box",
    "transform-origin", "transform-style", "transition", "transition-delay", "transition-duration",
    "transition-property", "transition-timing-function", "visibility", "opacity", "z-index",
    "margin", "margin-top", "margin-right", "margin-bottom", "margin-left", "outline",
    "outline-offset", "outline-width", "outline-style", "outline-color", "border", "border-top",
    "border-right", "border-bottom", "border-left", "border-width", "border-top-width",
    "border-right-width", "border-bottom-width", "border-left-width", "border-style",
    "border-top-style", "border-right-style", "border-bottom-style", "border-left-style",
    "border-radius", "border-top-left-radius", "border-top-right-radius",
    "border-bottom-left-radius", "border-bottom-right-radius", "border-color", "border-top-color",
    "border-right-color", "border-bottom-color", "border-left-color", "box-shadow", "background",
    "background-attachment", "background-clip", "background-color", "background-image",
    "background-repeat", "background-position", "background-size", "cursor", "padding",
    "padding-top", "padding-right", "padding-bottom", "padding-left", "width", "min-width",
    "max-width", "height", "min-height", "max-height", "overflow", "list-style", "caption-side",
    "table-layout", "border-collapse", "border-spacing", "empty-cells", "vertical-align",
    "text-align", "text-indent", "text-transform", "text-decoration", "text-rendering",
    "text-shadow", "text-overflow", "line-height", "word-wrap", "word-break", "white-space",
    "quotes", "content", "color", "font", "font-family", "font-size", "font-style", "font-weight",
    "font-variant", "font-smoothing", "letter-spacing", "word-spacing"]

/-- The properties of a preset, in order. -/
def entries : Preset → List Entry
  | recess => recessNames.map Entry.mk
  | smacss => smacssNames.map Entry.mk
  | concentric => concentricNames.map Entry.mk

end Preset
end SheetLint.Order
