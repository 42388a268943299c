import JsxPages.Json.Printer
/-!
# The list of pages

The manifest lists the pages of a build by their routes. Pages with one route keep their order.
-/

namespace JsxPages.Project

/-- A page in the manifest. -/
structure Entry where
  route : String
  component : String
  module : String
  source : String
  deriving DecidableEq, Repr

namespace Entry

/-- A field on a line of its own. -/
def fieldText (name value : String) : String :=
  "    " ++ Json.stringText name ++ ": " ++ Json.stringText value

def fields (entry : Entry) : List (String × String) :=
  [("route", entry.route), ("component", entry.component), ("module", entry.module),
    ("source", entry.source)]

/-- An entry as an indented object. -/
def text (entry : Entry) : String :=
  "  \x7b\n" ++ ",\n".intercalate (entry.fields.map fun field => fieldText field.1 field.2) ++
    "\n  \x7d"

end Entry

def sortByRoute (entries : List Entry) : List Entry :=
  entries.mergeSort fun first second => !decide (second.route < first.route)

def manifestText (entries : List Entry) : String :=
  if entries.isEmpty then "[]" else "[\n" ++ ",\n".intercalate (entries.map Entry.text) ++ "\n]"

end JsxPages.Project
