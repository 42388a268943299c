import JsxPages.Command.Run
import JsxPages.Command.Tools
/-!
# The program

Gives the commands access to the files of the machine, prints what they return and reports how they
failed.
-/

namespace JsxPages

open Project (Disk ReadFault)

/-- Why a file of the machine could not be read; `isDir` tells whether it is a directory. -/
def faultOf (isDir : Bool) (error : IO.Error) : ReadFault :=
  if isDir then
    .isDirectory
  else
    match error with
    | .noFileOrDirectory .. => .missing
    | .inappropriateType .. => .notDirectory
    | other => .other (toString other)

/-- Whether a directory of the machine is at a path. -/
def isDirectory (path : String) : IO Bool := do
  return ← ((← IO.currentDir) / path).isDir

def readFile (path : String) : IO (Except ReadFault String) := do
  match ← (IO.FS.readBinFile path).toBaseIO with
  | .error error => return .error (faultOf (← isDirectory path) error)
  | .ok bytes =>
    match String.fromUTF8? bytes with
    | some text => return .ok text
    | none => return .error .notText

/-- Whether an action succeeds. -/
def succeeds (action : IO Unit) : IO Bool := do
  match ← action.toBaseIO with
  | .ok () => return true
  | .error _ => return false

/-- The files below a directory of the machine, each by the names on the way to it. -/
def filesBelow (path : String) : IO (List (List String)) := do
  let base := (← IO.currentDir) / path
  let files ← base.walkDir
  let files ← files.filterM fun file => return !(← file.isDir)
  return files.toList.map fun file => file.components.drop base.components.length

/-- The files of the machine. -/
def machine : Disk IO where
  read := readFile
  write path text := succeeds (IO.FS.writeFile path text)
  createDirs path := succeeds (IO.FS.createDirAll path)
  isThere path := do return ← ((← IO.currentDir) / path).pathExists
  isDir := isDirectory
  filesBelow := filesBelow

end JsxPages

/-- Runs the program on the arguments it was called with. -/
def main (arguments : List String) : IO UInt32 := do
  let ending ← JsxPages.Command.run JsxPages.machine JsxPages.Command.tools arguments
  IO.print ending.output
  if let some error := ending.error then
    IO.eprintln ("Error: " ++ error.message)
  return UInt32.ofNat ending.status
