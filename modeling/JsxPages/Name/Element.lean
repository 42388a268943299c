import JsxPages.Text.Basic
/-!
# Names of elements

Tag names come in lower case and may carry a namespace. The canonical name has neither: the
namespace is dropped and the mixed case of SVG names restored.
-/

namespace JsxPages.Name

/-- SVG elements whose name is in mixed case. -/
def svgElements : List String :=
  ["altGlyph", "altGlyphDef", "altGlyphItem", "animateColor", "animateMotion",
    "animateTransform", "clipPath", "feBlend", "feColorMatrix", "feComponentTransfer",
    "feComposite", "feConvolveMatrix", "feDiffuseLighting", "feDisplacementMap",
    "feDistantLight", "feDropShadow", "feFlood", "feFuncA", "feFuncB", "feFuncG", "feFuncR",
    "feGaussianBlur", "feImage", "feMerge", "feMergeNode", "feMorphology", "feOffset",
    "fePointLight", "feSpecularLighting", "feSpotLight", "feTile", "feTurbulence",
    "foreignObject", "glyphRef", "linearGradient", "radialGradient", "textPath"]

/-- SVG elements with mixed case by their names in lower case. -/
def svgElementsByLower : List (String × String) :=
  svgElements.map fun name => (Text.lower name, name)

def voidElements : List String :=
  ["area", "base", "br", "col", "embed", "hr", "img", "input", "link", "meta", "param",
    "source", "track", "wbr"]

/-- Whether an element never has content. -/
def isVoid (name : String) : Bool :=
  voidElements.contains name

/-- The name an element is written with. -/
def canonical (name : String) : String :=
  let inner := String.ofList (Text.afterLast ':' name.toList)
  (svgElementsByLower.lookup inner).getD inner

end JsxPages.Name
