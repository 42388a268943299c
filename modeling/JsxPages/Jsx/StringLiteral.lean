/-!
# JavaScript string literals

A text as a string literal. Carriage returns are left out, line feeds and backslashes escaped. A
text with single quotes and no double ones stands between double quotes, any other between single
quotes, its own single quotes escaped.
-/

namespace JsxPages.Jsx

def literalChar (c : Char) : List Char :=
  match c with
  | '\\' => ['\\', '\\']
  | '\n' => ['\\', 'n']
  | '\r' => []
  | c => [c]

def escapeSingle (c : Char) : List Char :=
  if c = '\'' then ['\\', '\''] else [c]

def stringLiteral (value : String) : String :=
  let escaped := value.toList.flatMap literalChar
  String.ofList
    (if escaped.contains '\'' && !escaped.contains '"' then
      '"' :: escaped ++ ['"']
    else
      '\'' :: escaped.flatMap escapeSingle ++ ['\''])

end JsxPages.Jsx
