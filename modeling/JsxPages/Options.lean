import JsxPages.Text.Basic
import JsxPages.Text.Quoted
/-!
# Options of a conversion

`Options.check` refuses the values with which no conversion could give usable output; of several
such values it reports the first in the order of `OptionError`.
-/

namespace JsxPages

/-- What a conversion can be told. -/
structure Options where
  /-- The element that carries the attributes of the body. -/
  wrapperTag : String := "div"
  /-- The directory that images are imported from. -/
  imagesDir : String := "images-flat"
  /-- What the names of minted classes begin with. -/
  classStem : String := "custom-var"
  /-- Whether comments are kept. -/
  keepComments : Bool := false
  /-- Whether the finished markup is normalized. -/
  normalizeOutput : Bool := false
  deriving DecidableEq, Repr

/-- An option with an unusable value. -/
inductive OptionError where
  | wrapperTag (value : String)
  | imagesDir
  | classStem (value : String)
  deriving DecidableEq, Repr

def OptionError.message : OptionError → String
  | wrapperTag value => "Invalid wrapper tag: " ++ Text.quoted value
  | imagesDir => "Images directory must not be empty"
  | classStem value => "Invalid custom property class prefix: " ++ Text.quoted value

namespace Options

/-- Whether a text begins with one kind of character and holds only another. -/
def hasShape (first others : Char → Bool) (text : String) : Bool :=
  text.toList.head?.any first && text.toList.all others

/-- Whether a tag can carry the attributes of the body. -/
def isWrapperTag (tag : String) : Bool :=
  hasShape Char.isLower (fun c => c.isLower || c.isDigit || c == '-') tag

/-- Whether class names can begin with a text. -/
def isClassStem (stem : String) : Bool :=
  hasShape Char.isAlpha (fun c => c.isAlphanum || c == '-' || c == '_') stem

def check (options : Options) : Except OptionError Unit :=
  if ¬ isWrapperTag options.wrapperTag then .error (.wrapperTag options.wrapperTag)
  else if (Text.trimChar '/' options.imagesDir).isEmpty then .error .imagesDir
  else if ¬ isClassStem options.classStem then .error (.classStem options.classStem)
  else .ok ()

end Options

end JsxPages
