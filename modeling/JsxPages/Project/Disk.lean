/-!
# Files

What the commands ask of the place where files are. A command that is written against `Disk` runs on
any such place: on the files of the machine, or on a tree held in memory.
-/

namespace JsxPages.Project

/-- Why a file cannot be read. -/
inductive ReadFault where
  | missing
  | isDirectory
  | notDirectory
  | notText
  | other (reason : String)
  deriving DecidableEq, Repr

def ReadFault.message : ReadFault → String
  | missing => "No such file or directory (os error 2)"
  | isDirectory => "Is a directory (os error 21)"
  | notDirectory => "Not a directory (os error 20)"
  | notText => "stream did not contain valid UTF-8"
  | other reason => reason

/-- Access to files by their paths. -/
structure Disk (m : Type → Type) where
  read (path : String) : m (Except ReadFault String)
  /-- Writes a text; says whether that was done. -/
  write (path text : String) : m Bool
  /-- Creates a directory and those around it; says whether the directory is there. -/
  createDirs (path : String) : m Bool
  /-- Whether there is anything at a path. -/
  isThere (path : String) : m Bool
  /-- Whether there is a directory at a path. -/
  isDir (path : String) : m Bool
  /-- The files below a directory, each by the names on the way to it. -/
  filesBelow (path : String) : m (List (List String))

end JsxPages.Project
