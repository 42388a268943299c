import JsxPages.Project.Build
import JsxPages.Toml.Reader
/-!
# The settings file

A project may have a settings file with the sections `pages`, `assets` and `build`. Every setting
has a value that holds where the file says nothing. Settings that are not known are ignored, known
ones must have a value of their kind.
-/

namespace JsxPages

structure Settings where
  pagesDir : String := "pages"
  outputDir : String := "out"
  wrapperTag : String := "div"
  keepComments : Bool := false
  assetMap : Option String := none
  imagesDir : String := "images-flat"
  classStem : String := "custom-var"
  minify : Bool := false
  validate : Bool := true
  deriving DecidableEq, Repr

namespace Settings

/-- The entries of a section, none if the section is not there. -/
def section? (entries : List (String × Toml.Value)) (name : String) :
    Option (List (String × Toml.Value)) :=
  match entries.lookup name with
  | none => some []
  | some (.table entries) => some entries
  | some _ => none

/-- A text, or `otherwise` if there is none. -/
def text? (entries : List (String × Toml.Value)) (name otherwise : String) : Option String :=
  match entries.lookup name with
  | none => some otherwise
  | some (.string value) => some value
  | some _ => none

/-- A truth value, or `otherwise` if there is none. -/
def flag? (entries : List (String × Toml.Value)) (name : String) (otherwise : Bool) :
    Option Bool :=
  match entries.lookup name with
  | none => some otherwise
  | some (.boolean value) => some value
  | some _ => none

/-- A text that has no value where nothing is said. -/
def file? (entries : List (String × Toml.Value)) (name : String) : Option (Option String) :=
  match entries.lookup name with
  | none => some none
  | some (.string value) => some (some value)
  | some _ => none

def ofText? (text : String) : Option Settings := do
  let entries ← Toml.readDocument? text
  let pages ← section? entries "pages"
  let assets ← section? entries "assets"
  let build ← section? entries "build"
  let base : Settings := {}
  return {
    pagesDir := ← text? pages "dir" base.pagesDir
    outputDir := ← text? pages "output" base.outputDir
    wrapperTag := ← text? pages "wrapper_tag" base.wrapperTag
    keepComments := ← flag? pages "keep_comments" base.keepComments
    assetMap := ← file? assets "map"
    imagesDir := ← text? assets "images_dir" base.imagesDir
    classStem := ← text? assets "custom_var_prefix" base.classStem
    minify := ← flag? build "minify" base.minify
    validate := ← flag? build "validate" base.validate }

def options (settings : Settings) : Options :=
  { wrapperTag := settings.wrapperTag
    imagesDir := settings.imagesDir
    classStem := settings.classStem
    keepComments := settings.keepComments }

/-- What a build is told. -/
def config (settings : Settings) : Project.Config :=
  { pagesDir := settings.pagesDir
    outputDir := settings.outputDir
    assetMap := settings.assetMap
    options := settings.options
    minify := settings.minify
    validate := settings.validate }

/-- The settings file of a new project. -/
def template : String :=
  "# sitejsx configuration

[pages]
# Directory of captured HTML snapshots
dir = \"pages\"

# Output project root; page modules are written to <output>/src/pages
output = \"out\"

# Element that carries <body> attributes
wrapper_tag = \"div\"

# Keep HTML comments as JSX comments
keep_comments = false

[assets]
# JSON object mapping original asset references to sanitized filenames
# map = \"assets.json\"

# Flat image directory, relative to the page modules
images_dir = \"images-flat\"

# Prefix for classes holding inline CSS custom properties
custom_var_prefix = \"custom-var\"

[build]
# Minify generated CSS
minify = false

# Parse every generated module before writing it
validate = true
"

end Settings

end JsxPages
