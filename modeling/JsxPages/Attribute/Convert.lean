import JsxPages.Attribute.Value
import JsxPages.Image.Reference
import JsxPages.Name.Event
import JsxPages.Options
import JsxPages.Style
import JsxPages.Tables
/-!
# From the attributes of a tag to properties

Attributes are converted in their order. Classes are gathered from all attributes that give some and
written last, as one `className`, each class once. Custom properties of an inline style go into a
class of their own, and image files are imported; both are recorded in the tables.
-/

namespace JsxPages.Attribute

/-- What was gathered from some attributes of a tag. -/
structure Gathered where
  attributes : List Jsx.Attribute := []
  classes : List String := []
  tables : Tables := {}
  deriving DecidableEq, Repr

/-- Adds a class unless it is there. -/
def addClass (classes : List String) (name : String) : List String :=
  if classes.contains name then classes else classes ++ [name]

namespace Gathered

def addAttribute (gathered : Gathered) (name : String) (value : Jsx.Value) : Gathered :=
  { gathered with attributes := gathered.attributes ++ [⟨name, value⟩] }

def addClasses (gathered : Gathered) (value : String) : Gathered :=
  { gathered with classes := (Text.words value).foldl addClass gathered.classes }

/-- Adds the style object of an inline style, if it has regular properties. -/
def addObject (gathered : Gathered) (style : Style) : Gathered :=
  match style.objectLiteral? with
  | some object => gathered.addAttribute "style" (.expression object)
  | none => gathered

/-- Mints a class for the custom properties of an inline style, if it has any. -/
def addCustom (stem : String) (gathered : Gathered) (style : Style) : Gathered :=
  if style.customProperties.isEmpty then
    gathered
  else
    let (name, classes) := gathered.tables.classes.mint stem style.customProperties
    { gathered with tables := { gathered.tables with classes } }.addClasses name

def addImage (assets : AssetMap) (imagesDir : String) (gathered : Gathered)
    (name value : String) : Gathered :=
  let (reference, images) := Image.resolve assets imagesDir gathered.tables.images value
  { gathered with tables := { gathered.tables with images } }.addAttribute name
    (match reference with
    | .imported identifier => .expression identifier
    | .path path => .literal path
    | .unchanged => .literal value)

end Gathered

/-- Whether an attribute of an element refers to an image. -/
def isImage (tag name : String) : Bool :=
  name == "src" || name == "poster" && tag == "video"

/-- Adds an attribute, given its name in lower case, that is neither a class, a style nor a
handler. -/
def addProperty (assets : AssetMap) (options : Options) (tag : String) (gathered : Gathered)
    (name value : String) : Gathered :=
  if ¬ Name.isProperty (Name.property name) then
    gathered
  else if Name.startsWith "data-" name then
    gathered.addAttribute (Name.property name) (dataValue value)
  else if isImage tag name then
    gathered.addImage assets options.imagesDir (Name.property name) value
  else
    gathered.addAttribute (Name.property name) (plainValue name value)

/-- Adds what an attribute gives, given its name in lower case. -/
def add (assets : AssetMap) (options : Options) (tag : String) (gathered : Gathered)
    (name value : String) : Gathered :=
  if isAbsent value (Name.isBoolean name) then
    gathered
  else if name = "class" ∨ name = "classname" then
    gathered.addClasses value
  else if name = "style" then
    let style := Style.ofText value
    (gathered.addObject style).addCustom options.classStem style
  else if Name.isEvent name then
    gathered.addAttribute (Name.eventProperty name) (.expression (handler value))
  else
    addProperty assets options tag gathered name value

def gather (assets : AssetMap) (options : Options) (tag : String)
    (attributes : List (String × String)) (tables : Tables) : Gathered :=
  attributes.foldl
    (fun gathered attr =>
      add assets options tag gathered (Text.lower attr.1) attr.2)
    { tables }

/-- The attribute for some classes, if there are any. -/
def classAttribute (classes : List String) : List Jsx.Attribute :=
  if classes.isEmpty then [] else [⟨"className", .literal (" ".intercalate classes)⟩]

def properties (assets : AssetMap) (options : Options) (tag : String)
    (attributes : List (String × String)) (tables : Tables) : List Jsx.Attribute × Tables :=
  let gathered := gather assets options tag attributes tables
  (gathered.attributes ++ classAttribute gathered.classes, gathered.tables)

/-- The attributes of a tag as written behind its name. -/
def convert (assets : AssetMap) (options : Options) (tag : String)
    (attributes : List (String × String)) (tables : Tables) : String × Tables :=
  let (attributes, tables) := properties assets options tag attributes tables
  (Jsx.attributesText attributes, tables)

end JsxPages.Attribute
