import JsxPages.Document.Pass
import JsxPages.Html.Lexer
/-!
# Converting a document

`convertWith` records images and classes in tables that it is given, so that documents that share
tables never share a class. `convert` begins with empty tables and returns them with the markup.
-/

namespace JsxPages.Document

/-- What a document is converted to, with what the markup depends on. -/
structure Conversion where
  jsx : String
  diagnostics : List Diagnostic
  tables : Tables
  imagesDir : String
  deriving DecidableEq, Repr

namespace Conversion

/-- The statements that import the images of the markup. -/
def importStatements (conversion : Conversion) : String :=
  conversion.tables.images.statements conversion.imagesDir

/-- The stylesheet with the classes of the markup. -/
def stylesheet (conversion : Conversion) : String :=
  conversion.tables.classes.stylesheet

end Conversion

/-- The markup for a sequence of tokens and the tables behind it. -/
def convertTokens (setting : Setting) (tokens : List Html.Token) (tables : Tables) :
    Markup × Tables :=
  let pass := Pass.run setting { tables } tokens
  (pass.finish setting, pass.tables)

/-- The markup for a document and the tables behind it. -/
def convertWith (setting : Setting) (html : String) (tables : Tables) : Markup × Tables :=
  convertTokens setting (Html.tokens html) tables

/-- Converts a document on its own. -/
def convert (setting : Setting) (html : String) : Conversion :=
  let (markup, tables) := convertWith setting html {}
  { jsx := markup.jsx
    diagnostics := markup.diagnostics
    tables
    imagesDir := setting.options.imagesDir }

end JsxPages.Document
