import JsxPages.Text.Split
/-!
# Strings by their characters

Letter case is that of ASCII: `lower` leaves every other character alone. `replace` writes a text
for each occurrence of one character, `lines` reads a text as a file of lines.
-/

namespace JsxPages.Text

/-- ASCII letters in lower case, all else as it is. -/
def lower (text : String) : String :=
  String.ofList (text.toList.map Char.toLower)

/-- Writes `written` for every `c`. -/
def replace (c : Char) (written : String) (text : String) : String :=
  String.ofList (text.toList.flatMap fun d => if d = c then written.toList else [d])

/-- Writes `*` and `/` apart wherever `*/` stands. -/
def breakCommentEnds : List Char → List Char
  | '*' :: '/' :: rest => '*' :: ' ' :: '/' :: breakCommentEnds rest
  | c :: rest => c :: breakCommentEnds rest
  | [] => []

def trimChar (c : Char) (text : String) : String :=
  String.ofList (trimWhere (· == c) text.toList)

/-- A line without the carriage return it may end in. -/
def dropReturn (line : List Char) : List Char :=
  (beforeEnding ['\r'] line).getD line

/-- The parts between line feeds, the last one only if it is not empty. -/
def linesOf : List (List Char) → List (List Char)
  | [] => []
  | [last] => if last.isEmpty then [] else [last]
  | line :: rest => dropReturn line :: linesOf rest

def lines (text : String) : List String :=
  (linesOf (splitWhere (· == '\n') text.toList)).map String.ofList

end JsxPages.Text
