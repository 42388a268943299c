import JsxPages.Document.Convert
/-!
# Page modules

A page module imports its images and its stylesheet and exports one function component that returns
the markup of the page.
-/

namespace JsxPages.Page

/-- What a page module is made of. -/
structure Module where
  name : String
  /-- The import statements of the images. -/
  imports : List String
  /-- The stylesheet beside the module; an empty name is none. -/
  stylesheet : Option String
  jsx : String
  deriving DecidableEq, Repr

namespace Module

/-- The statement that imports the stylesheet. -/
def stylesheetImport (stylesheet : Option String) : String :=
  match stylesheet with
  | none | some "" => ""
  | some file => "import './" ++ file ++ "';\n"

/-- The statements at the head of the module, with an empty line behind them if there are any. -/
def head (page : Module) : String :=
  let statements :=
    String.join (page.imports.map (· ++ "\n")) ++ stylesheetImport page.stylesheet
  if page.imports.isEmpty ∧ (stylesheetImport page.stylesheet).isEmpty then statements
  else statements ++ "\n"

/-- The text of the module, without a line feed at its end. -/
def text (page : Module) : String :=
  page.head ++ "export default function " ++ page.name ++ "() \x7b\n  return (\n    " ++
    page.jsx ++ "\n  );\n\x7d"

end Module

/-- The module for a converted page. -/
def moduleText (name : String) (conversion : Document.Conversion) (stylesheet : Option String) :
    String :=
  let page : Module :=
    { name, imports := Text.lines conversion.importStatements, stylesheet, jsx := conversion.jsx }
  page.text ++ "\n"

end JsxPages.Page
