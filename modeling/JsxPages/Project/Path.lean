import JsxPages.Text.Split
/-!
# Paths

A path is a text of names with slashes between them. Empty names and single points between slashes
stand for nothing, so a path has its last name in front of any slashes it ends in.
-/

namespace JsxPages.Project.Path

def names (path : String) : List String :=
  ((Text.wordsWhere (· == '/') path.toList).map String.ofList).filter (· != ".")

/-- The last name on a path, unless it leads upwards. -/
def fileName? (path : String) : Option String :=
  match (names path).getLast? with
  | none | some ".." => none
  | some name => some name

/-- A file name cut in front of its last point. A name has no extension if the point is its first
character. -/
def splitName (name : String) : String × Option String :=
  match Text.cutLast '.' name.toList with
  | none | some ([], _) => (name, none)
  | some (stem, extension) => (String.ofList stem, some (String.ofList extension))

def stemOf (name : String) : String :=
  (splitName name).1

def extensionOf? (name : String) : Option String :=
  (splitName name).2

/-- A path below another. A path from the root on stays as it is. -/
def join (base path : String) : String :=
  if base.isEmpty ∨ path.toList.head? = some '/' then path
  else if base.toList.getLast? = some '/' then base ++ path
  else base ++ "/" ++ path

/-- A path, its last character first, without the slashes and points it ends in. -/
def trimReversed : List Char → List Char
  | ['/'] => ['/']
  | '/' :: rest => trimReversed rest
  | '.' :: '/' :: rest => trimReversed ('/' :: rest)
  | path => path

/-- The path that a path has its last name in. -/
def parent (path : String) : String :=
  String.ofList
    (trimReversed ((trimReversed path.toList.reverse).dropWhile (· != '/'))).reverse

def withFileName (path name : String) : String :=
  match fileName? path with
  | some _ => join (parent path) name
  | none => join path name

end JsxPages.Project.Path
