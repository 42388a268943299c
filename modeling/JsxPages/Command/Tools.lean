import JsxPages.Css.Minify
import JsxPages.Jsx.Check
import JsxPages.Project.Build
/-!
# Tools and errors of the commands

A build is told which modules are well-formed and how stylesheets are minified. The program answers
both itself. What stops a command is told in one line.
-/

namespace JsxPages.Command

/-- The check and the minifier that the program comes with. -/
def tools : Project.Tools where
  acceptsModule := Jsx.Check.acceptsModule
  minifyStylesheet := Css.minify

/-- Why a command failed. -/
inductive CommandError where
  /-- The settings file, or the document to convert, cannot be read. -/
  | unreadable (path : String)
  /-- The settings file is not well-formed. -/
  | malformedSettings (path : String)
  | unwritable (path : String)
  /-- The directory for the pages of a new project cannot be created. -/
  | noPagesDir
  | build (error : Project.BuildError)
  /-- Some pages of a build failed. -/
  | failedPages (count : Nat)
  deriving DecidableEq, Repr

def CommandError.message : CommandError → String
  | unreadable path => "Failed to read " ++ path
  | malformedSettings path => "Failed to parse " ++ path
  | unwritable path => "Failed to write " ++ path
  | noPagesDir => "Failed to create pages directory"
  | build error => error.message
  | failedPages count => Nat.repr count ++ " pages failed"

end JsxPages.Command
