import JsxPages.Text.Basic
/-!
# Identifiers for image files

The identifier an image is imported as is made of the letters and digits of its file name: the
extension is dropped, the parts between all other characters are joined in camel case. Names that no
binding may have are made into ones that may.
-/

namespace JsxPages.Image

/-- Words that name no binding. -/
def reservedWords : List String :=
  ["arguments", "await", "break", "case", "catch", "class", "const", "continue", "debugger",
    "default", "delete", "do", "else", "enum", "eval", "export", "extends", "false", "finally",
    "for", "function", "if", "implements", "import", "in", "instanceof", "interface", "let",
    "new", "null", "package", "private", "protected", "public", "return", "static", "super",
    "switch", "this", "throw", "true", "try", "typeof", "undefined", "var", "void", "while",
    "with", "yield"]

/-- A file name without its extension, unless nothing else is left. -/
def stem (filename : List Char) : List Char :=
  match Text.cutLast '.' filename with
  | some (before, _) => if before.isEmpty then filename else before
  | none => filename

def capitalized : List Char → List Char
  | [] => []
  | c :: rest => c.toUpper :: rest

def joinWords : List (List Char) → List Char
  | [] => []
  | first :: rest => first.map Char.toLower ++ rest.flatMap capitalized

/-- The words of a file name in camel case, with `img` in front of a digit. -/
def plainIdentifier (filename : String) : String :=
  match joinWords (Text.wordsWhere (fun c => !c.isAlphanum) (stem filename.toList)) with
  | [] => "image"
  | c :: rest => if c.isDigit then "img" ++ String.ofList (c :: rest) else String.ofList (c :: rest)

def identifier (filename : String) : String :=
  let name := plainIdentifier filename
  if reservedWords.contains name then name ++ "Img" else name

end JsxPages.Image
