import JsxPages.Command.Invocation
import JsxPages.Command.Tools
import JsxPages.Settings
/-!
# Running a command

`init` writes a settings file and a directory for the pages, `convert` converts one document,
`build` a whole project. Each runs on any `Disk`; a text for the standard output is part of what it
returns.
-/

namespace JsxPages.Command

open Project (BuildError Disk Tools)

section
variable {m : Type → Type} [Monad m] (disk : Disk m) (tools : Tools)

/-- Writes a text, or fails. -/
def write (path text : String) : ExceptT CommandError m Unit := do
  if !(← disk.write path text) then
    throw (.unwritable path)

/-- The text of a file that a command needs. -/
def readNeeded (path : String) : ExceptT CommandError m String := do
  match ← disk.read path with
  | .ok text => return text
  | .error _ => throw (.unreadable path)

/-- What a part of a build comes to, as part of a command. -/
def building {α : Type} (action : ExceptT BuildError m α) : ExceptT CommandError m α :=
  ExceptT.mk do
    match ← action.run with
    | .ok value => return .ok value
    | .error error => return .error (.build error)

/-- The settings of a project, all by default where there is no file. -/
def loadSettings (path : String) : ExceptT CommandError m Settings := do
  if !(← disk.isThere path) then
    return {}
  match Settings.ofText? (← readNeeded disk path) with
  | some settings => return settings
  | none => throw (.malformedSettings path)

/-! ### A new project -/

/-- Writes the settings file and the pages directory of a new project. -/
def init (settings : String) (overwrite : Bool) : ExceptT CommandError m Unit := do
  if !overwrite && (← disk.isThere settings) then
    return ()
  write disk settings Settings.template
  let pages := Project.Path.join (Project.Path.parent settings) "pages"
  if !(← disk.isThere pages) then
    if !(← disk.createDirs pages) then
      throw .noPagesDir

/-! ### One document -/

/-- The component name for a document, if none is given. -/
def nameFor (input : String) : String :=
  Page.componentName (((Project.Path.fileName? input).map Project.Path.stemOf).getD "page")

/-- The name of the stylesheet beside an output file. A module imports it under the name of its
component, bare markup has it under its own. -/
def stylesheetName (output name : String) (component : Bool) : String :=
  match Project.Path.fileName? output with
  | some file => (if component then name else Project.Path.stemOf file) ++ ".css"
  | none => name ++ ".css"

/-- Writes the stylesheet of a document beside its output file, if it has classes. -/
def writeStylesheet (arguments : ConvertArguments) (name : String)
    (conversion : Document.Conversion) : ExceptT CommandError m (Option String) := do
  match arguments.output with
  | none => return none
  | some output =>
    if conversion.tables.classes.size = 0 then
      return none
    let file := stylesheetName output name arguments.component
    write disk (Project.Path.withFileName output file) conversion.stylesheet
    return some file

/-- What is written for a document: bare markup, or a module that was checked. -/
def renderDocument (settings : Settings) (arguments : ConvertArguments) (name : String)
    (stylesheet : Option String) (conversion : Document.Conversion) :
    Except CommandError String :=
  if arguments.component then
    let module := Page.moduleText name conversion stylesheet
    if settings.validate ∧ ¬ tools.acceptsModule module then
      .error (.build .invalidModule)
    else
      .ok module
  else
    .ok (conversion.jsx ++ "\n")

/-- The conversion of a document under the options of the settings. -/
def convertDocument (settings : Settings) (assets : AssetMap) (html : String) :
    Except CommandError Document.Conversion :=
  match settings.options.check with
  | .error error => .error (.build (.option error))
  | .ok () => .ok (Document.convert { assets, options := settings.options } html)

/-- Converts one document. Returns what is printed, which is nothing if there is an output file. -/
def convert (settingsFile : String) (arguments : ConvertArguments) :
    ExceptT CommandError m String := do
  let settings ← loadSettings disk settingsFile
  let assets ← building (Project.loadAssets disk (arguments.assets.or settings.assetMap))
  let html ← readNeeded disk arguments.input
  let conversion ← ExceptT.mk (pure (convertDocument settings assets html))
  let name := arguments.name.getD (nameFor arguments.input)
  let stylesheet ← writeStylesheet disk arguments name conversion
  let text ← ExceptT.mk (pure (renderDocument tools settings arguments name stylesheet conversion))
  match arguments.output with
  | none => return text
  | some output =>
    write disk output text
    return ""

/-! ### A project -/

/-- The configuration of a build: what the arguments say goes before the settings. -/
def configFor (settings : Settings) (arguments : BuildArguments) : Project.Config :=
  let config := settings.config
  { config with
    outputDir := arguments.output.getD config.outputDir
    minify := arguments.minify || config.minify
    validate := !arguments.skipCheck && config.validate }

/-- Builds a project. Fails if some of its pages do. -/
def build (settingsFile : String) (arguments : BuildArguments) :
    ExceptT CommandError m Unit := do
  let settings ← loadSettings disk settingsFile
  let report ← building (Project.build disk tools (configFor settings arguments))
  if report.failures ≠ [] then
    throw (.failedPages report.failures.length)

/-! ### The program -/

/-- What a request comes to: the text to print. -/
def perform : Invocation → ExceptT CommandError m String
  | .version => return "sitejsx 0.1.0\n"
  | .help => return "Usage: sitejsx [OPTIONS] <COMMAND>\n\nCommands: init, convert, build\n"
  | .init settings overwrite => do
    init disk settings overwrite
    return ""
  | .convert settings arguments => convert disk tools settings arguments
  | .build settings arguments => do
    build disk tools settings arguments
    return ""

end

/-- How a run of the program ended. -/
structure Ending where
  /-- The exit status: 1 after a failure, 2 if the arguments are not understood. -/
  status : Nat
  output : String := ""
  error : Option CommandError := none
  deriving DecidableEq, Repr

def run {m : Type → Type} [Monad m] (disk : Disk m) (tools : Tools) (arguments : List String) :
    m Ending := do
  match Invocation.ofArguments? arguments with
  | none => return { status := 2 }
  | some invocation =>
    match ← (perform disk tools invocation).run with
    | .ok output => return { status := 0, output }
    | .error error => return { status := 1, error := some error }

end JsxPages.Command
