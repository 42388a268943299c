import JsxPages.Image.Identifier
import JsxPages.Name.Case
import JsxPages.Text.Basic
/-!
# The images a page imports

Each file is imported once, under an identifier of its own, in the order in which the files were
first seen.
-/

namespace JsxPages.Image

/-- Image files and the identifiers they are imported as. -/
structure Imports where
  /-- Files with their identifiers, in the order in which they were first seen. -/
  entries : List (String × String) := []
  deriving DecidableEq, Repr

namespace Imports

def find? (imports : Imports) (filename : String) : Option String :=
  imports.entries.lookup filename

def identifiers (imports : Imports) : List String :=
  imports.entries.map (·.2)

/-- The identifier of a file, which is imported from now on. -/
def register (imports : Imports) (filename : String) : String × Imports :=
  match imports.find? filename with
  | some identifier => (identifier, imports)
  | none =>
    let identifier := Name.fresh (Image.identifier filename) imports.identifiers
    (identifier, { entries := imports.entries ++ [(filename, identifier)] })

/-- The statement that imports one file from a directory below the module. -/
def statement (directory : String) (entry : String × String) : String :=
  if directory.isEmpty then
    "import " ++ entry.2 ++ " from './" ++ entry.1 ++ "';\n"
  else
    "import " ++ entry.2 ++ " from './" ++ directory ++ "/" ++ entry.1 ++ "';\n"

def statements (imports : Imports) (imagesDir : String) : String :=
  String.join (imports.entries.map (statement (Text.trimChar '/' imagesDir)))

end Imports

end JsxPages.Image
