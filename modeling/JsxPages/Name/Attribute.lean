import JsxPages.Name.Case
/-!
# Property names of attributes

Which property an attribute sets. Some have a name of their own, such as `className`; names that
begin with `data-` or `aria-` stay as they are; the others become camel case.
-/

namespace JsxPages.Name

/-- Attributes of HTML elements with a property name of their own. -/
def htmlProperties : List (String × String) :=
  [("for", "htmlFor"), ("class", "className"), ("accept-charset", "acceptCharset"),
    ("accesskey", "accessKey"), ("allowfullscreen", "allowFullScreen"),
    ("autocapitalize", "autoCapitalize"), ("autocomplete", "autoComplete"),
    ("autofocus", "autoFocus"), ("autoplay", "autoPlay"), ("cellpadding", "cellPadding"),
    ("cellspacing", "cellSpacing"), ("charset", "charSet"), ("classid", "classID"),
    ("colspan", "colSpan"), ("contenteditable", "contentEditable"),
    ("contextmenu", "contextMenu"), ("controlslist", "controlsList"),
    ("crossorigin", "crossOrigin"), ("datetime", "dateTime"), ("enctype", "encType"),
    ("enterkeyhint", "enterKeyHint"), ("fetchpriority", "fetchPriority"),
    ("formaction", "formAction"), ("formenctype", "formEncType"), ("formmethod", "formMethod"),
    ("formnovalidate", "formNoValidate"), ("formtarget", "formTarget"),
    ("frameborder", "frameBorder"), ("hreflang", "hrefLang"), ("http-equiv", "httpEquiv"),
    ("inputmode", "inputMode"), ("ismap", "isMap"), ("itemid", "itemID"),
    ("itemprop", "itemProp"), ("itemref", "itemRef"), ("itemscope", "itemScope"),
    ("itemtype", "itemType"), ("marginheight", "marginHeight"), ("marginwidth", "marginWidth"),
    ("maxlength", "maxLength"), ("mediagroup", "mediaGroup"), ("minlength", "minLength"),
    ("nomodule", "noModule"), ("novalidate", "noValidate"), ("playsinline", "playsInline"),
    ("popovertarget", "popoverTarget"), ("popovertargetaction", "popoverTargetAction"),
    ("radiogroup", "radioGroup"), ("readonly", "readOnly"), ("referrerpolicy", "referrerPolicy"),
    ("rowspan", "rowSpan"), ("spellcheck", "spellCheck"), ("srcdoc", "srcDoc"),
    ("srclang", "srcLang"), ("srcset", "srcSet"), ("tabindex", "tabIndex"), ("usemap", "useMap")]

/-- Attributes of SVG elements with a property name of their own, in lower case. -/
def svgProperties : List (String × String) :=
  [("accent-height", "accentHeight"), ("alignment-baseline", "alignmentBaseline"),
    ("allowreorder", "allowReorder"), ("arabic-form", "arabicForm"),
    ("attributename", "attributeName"), ("attributetype", "attributeType"),
    ("autoreverse", "autoReverse"), ("basefrequency", "baseFrequency"),
    ("baseline-shift", "baselineShift"), ("baseprofile", "baseProfile"),
    ("calcmode", "calcMode"), ("cap-height", "capHeight"), ("clip-path", "clipPath"),
    ("clip-rule", "clipRule"), ("clippathunits", "clipPathUnits"),
    ("color-interpolation", "colorInterpolation"),
    ("color-interpolation-filters", "colorInterpolationFilters"),
    ("color-profile", "colorProfile"), ("color-rendering", "colorRendering"),
    ("contentscripttype", "contentScriptType"), ("contentstyletype", "contentStyleType"),
    ("diffuseconstant", "diffuseConstant"), ("dominant-baseline", "dominantBaseline"),
    ("edgemode", "edgeMode"), ("enable-background", "enableBackground"),
    ("externalresourcesrequired", "externalResourcesRequired"), ("fill-opacity", "fillOpacity"),
    ("fill-rule", "fillRule"), ("filterres", "filterRes"), ("filterunits", "filterUnits"),
    ("flood-color", "floodColor"), ("flood-opacity", "floodOpacity"),
    ("font-family", "fontFamily"), ("font-size", "fontSize"),
    ("font-size-adjust", "fontSizeAdjust"), ("font-stretch", "fontStretch"),
    ("font-style", "fontStyle"), ("font-variant", "fontVariant"), ("font-weight", "fontWeight"),
    ("glyph-name", "glyphName"), ("glyph-orientation-horizontal", "glyphOrientationHorizontal"),
    ("glyph-orientation-vertical", "glyphOrientationVertical"), ("glyphref", "glyphRef"),
    ("gradienttransform", "gradientTransform"), ("gradientunits", "gradientUnits"),
    ("horiz-adv-x", "horizAdvX"), ("horiz-origin-x", "horizOriginX"),
    ("image-rendering", "imageRendering"), ("kernelmatrix", "kernelMatrix"),
    ("kernelunitlength", "kernelUnitLength"), ("keypoints", "keyPoints"),
    ("keysplines", "keySplines"), ("keytimes", "keyTimes"), ("lengthadjust", "lengthAdjust"),
    ("letter-spacing", "letterSpacing"), ("lighting-color", "lightingColor"),
    ("limitingconeangle", "limitingConeAngle"), ("marker-end", "markerEnd"),
    ("marker-mid", "markerMid"), ("marker-start", "markerStart"),
    ("markerheight", "markerHeight"), ("markerunits", "markerUnits"),
    ("markerwidth", "markerWidth"), ("maskcontentunits", "maskContentUnits"),
    ("maskunits", "maskUnits"), ("numoctaves", "numOctaves"),
    ("overline-position", "overlinePosition"), ("overline-thickness", "overlineThickness"),
    ("paint-order", "paintOrder"), ("pathlength", "pathLength"),
    ("patterncontentunits", "patternContentUnits"), ("patterntransform", "patternTransform"),
    ("patternunits", "patternUnits"), ("pointer-events", "pointerEvents"),
    ("pointsatx", "pointsAtX"), ("pointsaty", "pointsAtY"), ("pointsatz", "pointsAtZ"),
    ("preservealpha", "preserveAlpha"), ("preserveaspectratio", "preserveAspectRatio"),
    ("primitiveunits", "primitiveUnits"), ("refx", "refX"), ("refy", "refY"),
    ("rendering-intent", "renderingIntent"), ("repeatcount", "repeatCount"),
    ("repeatdur", "repeatDur"), ("requiredextensions", "requiredExtensions"),
    ("requiredfeatures", "requiredFeatures"), ("shape-rendering", "shapeRendering"),
    ("specularconstant", "specularConstant"), ("specularexponent", "specularExponent"),
    ("spreadmethod", "spreadMethod"), ("startoffset", "startOffset"),
    ("stddeviation", "stdDeviation"), ("stitchtiles", "stitchTiles"),
    ("stop-color", "stopColor"), ("stop-opacity", "stopOpacity"),
    ("strikethrough-position", "strikethroughPosition"),
    ("strikethrough-thickness", "strikethroughThickness"),
    ("stroke-dasharray", "strokeDasharray"), ("stroke-dashoffset", "strokeDashoffset"),
    ("stroke-linecap", "strokeLinecap"), ("stroke-linejoin", "strokeLinejoin"),
    ("stroke-miterlimit", "strokeMiterlimit"), ("stroke-opacity", "strokeOpacity"),
    ("stroke-width", "strokeWidth"), ("surfacescale", "surfaceScale"),
    ("systemlanguage", "systemLanguage"), ("tablevalues", "tableValues"), ("targetx", "targetX"),
    ("targety", "targetY"), ("text-anchor", "textAnchor"), ("text-decoration", "textDecoration"),
    ("text-rendering", "textRendering"), ("textlength", "textLength"),
    ("underline-position", "underlinePosition"), ("underline-thickness", "underlineThickness"),
    ("unicode-bidi", "unicodeBidi"), ("unicode-range", "unicodeRange"),
    ("units-per-em", "unitsPerEm"), ("v-alphabetic", "vAlphabetic"), ("v-hanging", "vHanging"),
    ("v-ideographic", "vIdeographic"), ("v-mathematical", "vMathematical"),
    ("vector-effect", "vectorEffect"), ("vert-adv-y", "vertAdvY"),
    ("vert-origin-x", "vertOriginX"), ("vert-origin-y", "vertOriginY"), ("viewbox", "viewBox"),
    ("viewtarget", "viewTarget"), ("word-spacing", "wordSpacing"),
    ("writing-mode", "writingMode"), ("x-height", "xHeight"),
    ("xchannelselector", "xChannelSelector"), ("xlink:actuate", "xlinkActuate"),
    ("xlink:arcrole", "xlinkArcrole"), ("xlink:href", "xlinkHref"), ("xlink:role", "xlinkRole"),
    ("xlink:show", "xlinkShow"), ("xlink:title", "xlinkTitle"), ("xlink:type", "xlinkType"),
    ("xml:base", "xmlBase"), ("xml:lang", "xmlLang"), ("xml:space", "xmlSpace"),
    ("xmlns:xlink", "xmlnsXlink"), ("ychannelselector", "yChannelSelector"),
    ("zoomandpan", "zoomAndPan")]

def booleans : List String :=
  ["allowfullscreen", "async", "autofocus", "autoplay", "checked", "controls", "default",
    "defer", "disabled", "formnovalidate", "hidden", "inert", "ismap", "itemscope", "loop",
    "multiple", "muted", "nomodule", "novalidate", "open", "playsinline", "readonly", "required",
    "reversed", "selected"]

/-- The property name of its own that an attribute has. -/
def ownProperty? (name : String) : Option String :=
  (htmlProperties.lookup name).or (svgProperties.lookup name)

/-- Whether an attribute sets a boolean property. -/
def isBoolean (name : String) : Bool :=
  booleans.contains (Text.lower name)

/-- Whether `start` begins a name. -/
def startsWith (start name : String) : Bool :=
  start.toList.isPrefixOf name.toList

/-- Whether a name keeps its hyphens. -/
def keepsHyphens (name : String) : Bool :=
  startsWith "data-" name || startsWith "aria-" name

/-- The property that an attribute other than a class, a style or an event sets. -/
def property (name : String) : String :=
  match ownProperty? name with
  | some own => own
  | none =>
    if keepsHyphens name then name
    else if name.toList.contains ':' then namespaced name
    else if name.toList.contains '-' then camelCase name
    else name

def isIdentifierStart (c : Char) : Bool :=
  c.isAlpha || c == '_' || c == '$'

/-- Whether a character may stand in an identifier. -/
def isIdentifierChar (c : Char) : Bool :=
  c.isAlphanum || c == '_' || c == '$'

/-- Whether a name can be written as the name of a property. -/
def isProperty (name : String) : Bool :=
  match name.toList with
  | [] => false
  | c :: rest => isIdentifierStart c && rest.all fun d => isIdentifierChar d || d == '-'

/-- Whether a name is a plain identifier. -/
def isIdentifier (name : String) : Bool :=
  match name.toList with
  | [] => false
  | c :: rest => isIdentifierStart c && rest.all isIdentifierChar

end JsxPages.Name
