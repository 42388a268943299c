import JsxPages.Page.Module
import JsxPages.Project.Error
import JsxPages.Project.Manifest
import JsxPages.Project.Source
/-!
# Building a project

A build converts every page into a module, with a stylesheet beside it if the page has classes, and
lists the pages it built. A page that fails is reported and stops no other. Whether a module is
well-formed, and what a stylesheet is without needless characters, is for the given tools to say.

Class names of different pages begin differently, so that the stylesheet of one page does not reach
another.
-/

namespace JsxPages.Project

/-- What a build is told. -/
structure Config where
  pagesDir : String := "pages"
  outputDir : String := "out"
  /-- The file that holds the asset map. -/
  assetMap : Option String := none
  options : Options := {}
  /-- Whether stylesheets are minified. -/
  minify : Bool := false
  /-- Whether modules are checked before they are written. -/
  validate : Bool := true
  deriving DecidableEq, Repr

/-- What a build leaves to others. -/
structure Tools where
  /-- Whether the text of a module is well-formed. -/
  acceptsModule : String → Bool
  /-- A stylesheet without needless characters, if it is well-formed. -/
  minifyStylesheet : String → Option String

/-- What a page is converted to. -/
structure Rendered where
  module : String
  /-- The file name and the text of the stylesheet. -/
  stylesheet : Option (String × String)
  images : List String
  classes : Nat
  deriving DecidableEq, Repr

/-- A page that was built. -/
structure Built where
  entry : Entry
  images : List String
  classes : Nat
  deriving DecidableEq, Repr

structure Report where
  /-- The pages that were built, as in the manifest. -/
  entries : List Entry
  /-- How many images the pages refer to, each counted once. -/
  images : Nat
  classes : Nat
  /-- The pages that failed, in their order. -/
  failures : List (String × BuildError)
  deriving DecidableEq, Repr

def Config.baseOptions (config : Config) : Options :=
  { config.options with normalizeOutput := false }

def Config.pageOptions (config : Config) (source : Source) : Options :=
  { config.baseOptions with classStem := config.options.classStem ++ "-" ++ source.slug }

/-- The directory that modules are written to. -/
def Config.modulesDir (config : Config) : String :=
  Path.join (Path.join config.outputDir "src") "pages"

/-- The module and the stylesheet of a page. -/
def render (tools : Tools) (config : Config) (assets : AssetMap) (source : Source)
    (html : String) : Except BuildError Rendered :=
  let options := config.pageOptions source
  match options.check with
  | .error error => .error (.option error)
  | .ok () =>
    let conversion := Document.convert { assets, options } html
    let hasClasses := conversion.tables.classes.size != 0
    let stylesheet := if hasClasses then some (source.component ++ ".css") else none
    let module := Page.moduleText source.component conversion stylesheet
    if config.validate ∧ ¬ tools.acceptsModule module then
      .error .invalidModule
    else
      .ok
        { module
          stylesheet := stylesheet.map (·, conversion.stylesheet)
          images := conversion.tables.images.entries.map (·.1)
          classes := conversion.tables.classes.size }

/-- What is told of a page that was built. -/
def Built.of (source : Source) (rendered : Rendered) : Built :=
  { entry :=
      { route := source.route
        component := source.component
        module := "src/pages/" ++ source.component ++ ".jsx"
        source := source.shownPlace }
    images := rendered.images
    classes := rendered.classes }

section
variable {m : Type → Type} [Monad m] (disk : Disk m) (tools : Tools) (config : Config)

/-- Writes a text, or fails. -/
def writeOrFail (path text : String) : ExceptT BuildError m Unit := do
  if !(← disk.write path text) then
    throw .unwritable

/-- Writes the stylesheet of a page, if it has one. -/
def writeStylesheet (rendered : Rendered) : ExceptT BuildError m Unit := do
  match rendered.stylesheet with
  | none => return ()
  | some (name, text) =>
    match if config.minify then tools.minifyStylesheet text else some text with
    | none => throw .invalidStylesheet
    | some text => writeOrFail disk (Path.join config.modulesDir name) text

def readText (path : String) : ExceptT BuildError m String := do
  match ← disk.read path with
  | .ok text => return text
  | .error fault => throw (.unreadable path fault)

/-- Builds a page. The module is written before the stylesheet. -/
def buildPage (assets : AssetMap) (source : Source) : ExceptT BuildError m Built := do
  let html ← readText disk source.path
  let rendered ← ExceptT.mk (pure (render tools config assets source html))
  writeOrFail disk (Path.join config.modulesDir (source.component ++ ".jsx")) rendered.module
  writeStylesheet disk tools config rendered
  return .of source rendered

def buildPages (assets : AssetMap) (sources : List Source) :
    m (List (Source × Except BuildError Built)) :=
  sources.mapM fun source => do
    return (source, ← (buildPage disk tools config assets source).run)

/-- The asset map of a project, empty where none is named. -/
def loadAssets (file : Option String) : ExceptT BuildError m AssetMap := do
  match file with
  | none => return {}
  | some path =>
    match AssetMap.ofJson? (← readText disk path) with
    | some assets => return assets
    | none => throw (.assetMap path)

end

def builtPages (outcomes : List (Source × Except BuildError Built)) : List Built :=
  outcomes.filterMap fun (_, outcome) => outcome.toOption

def failedPages (outcomes : List (Source × Except BuildError Built)) :
    List (String × BuildError) :=
  outcomes.filterMap fun (source, outcome) =>
    match outcome with
    | .ok _ => none
    | .error error => some (source.path, error)

/-- The report on the outcomes of all pages. -/
def Report.of (outcomes : List (Source × Except BuildError Built)) : Report :=
  let built := builtPages outcomes
  { entries := sortByRoute (built.map (·.entry))
    images := (built.flatMap (·.images)).eraseDups.length
    classes := built.foldl (fun count page => count + page.classes) 0
    failures := failedPages outcomes }

/-- Builds a project: reads the asset map, checks the options, finds the pages, builds them and
writes the manifest. -/
def build {m : Type → Type} [Monad m] (disk : Disk m) (tools : Tools) (config : Config) :
    ExceptT BuildError m Report := do
  let assets ← loadAssets disk config.assetMap
  match config.baseOptions.check with
  | .error error => throw (.option error)
  | .ok () => pure ()
  if !(← disk.isDir config.pagesDir) then
    throw (.noPagesDir config.pagesDir)
  let sources := Source.discover config.pagesDir (← disk.filesBelow config.pagesDir)
  if !(← disk.createDirs config.modulesDir) then
    throw .unwritable
  let report := Report.of (← buildPages (m := m) disk tools config assets sources)
  writeOrFail disk (Path.join config.outputDir "pages.json") (manifestText report.entries)
  return report

end JsxPages.Project
