import JsxPages.Name.Case
import JsxPages.Project.Path
import JsxPages.Text.Basic
import JsxPages.Text.Split
/-!
# The pages of a project

The pages are the HTML files below one directory, in the order of their paths, name by name. The
route of a page is its path without extension, an index standing for its directory. Each page gets a
component name of its own, made of the letters and digits of its path, in words that begin with a
capital.
-/

namespace JsxPages.Page

def capitalWord : List Char → List Char
  | [] => []
  | c :: rest => c.toUpper :: rest

/-- The words of a path joined, each with a capital. -/
def pascalCase (path : List Char) : List Char :=
  (Text.splitWhere (fun c => !c.isAlphanum) path).flatMap capitalWord

/-- The component name for the path of a page. -/
def componentName (path : String) : String :=
  match pascalCase path.toList with
  | [] => "Page"
  | c :: rest =>
    if c.isDigit then "Page" ++ String.ofList (c :: rest) else String.ofList (c :: rest)

end JsxPages.Page

namespace JsxPages.Project

/-- A page to be built. -/
structure Source where
  path : String
  /-- The names from the pages directory to its file. -/
  place : List String
  route : String
  component : String
  deriving DecidableEq, Repr

namespace Source

/-- What the class names of the page have behind the common stem. -/
def slug (source : Source) : String :=
  Text.lower source.component

/-- The path below the pages directory, with slashes. -/
def shownPlace (source : Source) : String :=
  Text.replace '\\' "/" ("/".intercalate source.place)

def isPage (place : List String) : Bool :=
  match place.getLast?.bind Path.extensionOf? with
  | some extension => extension == "html" || extension == "htm"
  | none => false

/-- The path of a page without its extension. A single point that is left of the name of a page in a
directory stands for the directory. -/
def stem (place : List String) : String :=
  match place.getLast? with
  | some name =>
    if Path.stemOf name = "." ∧ place.length ≠ 1 then "/".intercalate place.dropLast
    else "/".intercalate (place.dropLast ++ [Path.stemOf name])
  | none => ""

def routeOf (stem : String) : String :=
  if stem = "index" then "/"
  else "/" ++ String.ofList ((Text.beforeEnding "/index".toList stem.toList).getD stem.toList)

/-- Whether a path does not come after another. -/
def notAfter : List String → List String → Bool
  | [], _ => true
  | _ :: _, [] => false
  | name :: rest, other :: others =>
    if name = other then notAfter rest others else decide (name < other)

/-- The page at a place, under a component name that is not taken. -/
def ofPlace (pagesDir : String) (taken : List String) (place : List String) : Source :=
  { path := Path.join pagesDir ("/".intercalate place)
    place
    route := routeOf (stem place)
    component := Name.fresh (Page.componentName (stem place)) taken }

/-- The pages at some places, in their order. -/
def ofPlaces (pagesDir : String) (taken : List String) : List (List String) → List Source
  | [] => []
  | place :: rest =>
    let source := ofPlace pagesDir taken place
    source :: ofPlaces pagesDir (source.component :: taken) rest

/-- The pages among the files of a directory. -/
def discover (pagesDir : String) (files : List (List String)) : List Source :=
  ofPlaces pagesDir [] ((files.filter isPage).mergeSort notAfter)

end Source

end JsxPages.Project
