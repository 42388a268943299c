import JsxPages.Options
import JsxPages.Project.Disk
/-!
# What stops a build or a page
-/

namespace JsxPages.Project

/-- Why a page, or a whole build, failed. -/
inductive BuildError where
  | unreadable (path : String) (fault : ReadFault)
  | unwritable
  /-- A file is no asset map. -/
  | assetMap (path : String)
  | noPagesDir (path : String)
  /-- The module of a page is not well-formed. -/
  | invalidModule
  /-- The stylesheet of a page is not well-formed. -/
  | invalidStylesheet
  | option (error : OptionError)
  deriving DecidableEq, Repr

def BuildError.message : BuildError → String
  | unreadable path fault => "Failed to read " ++ path ++ ": " ++ fault.message
  | unwritable => "Failed to write output"
  | assetMap path => "Invalid asset map " ++ path
  | noPagesDir path => "Pages directory not found: " ++ path
  | invalidModule => "Generated JSX does not parse"
  | invalidStylesheet => "CSS error"
  | option error => error.message

end JsxPages.Project
