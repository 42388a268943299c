/-!
# Characters of a document

A line ends in LF, CR or CR LF, and each is read as LF. NUL stands for U+FFFD wherever it leaves a
character at all.
-/

namespace JsxPages.Html

/-- White space between the parts of a tag. -/
def isSpace (c : Char) : Bool :=
  c == ' ' || c == '\n' || c == '\t' || c == '\x0c' || c == '\r'

/-- Every line end as LF. -/
def unifyLineEnds : List Char → List Char
  | '\r' :: '\n' :: rest => '\n' :: unifyLineEnds rest
  | '\r' :: rest => '\n' :: unifyLineEnds rest
  | c :: rest => c :: unifyLineEnds rest
  | [] => []

/-- NUL as U+FFFD. -/
def showNul (c : Char) : Char :=
  if c = '\x00' then '\uFFFD' else c

/-- Text as written, with its line ends unified and without NUL. -/
def plainText (text : List Char) : List Char :=
  (unifyLineEnds text).map showNul

end JsxPages.Html
