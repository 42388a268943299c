import JsxPages.Text.Basic
/-!
# Text and comments of JSX

Characters that would open a tag, an expression or a character reference are written as references.
A comment is written as an expression that holds nothing but the comment.
-/

namespace JsxPages.Jsx

def escapeChar (c : Char) : List Char :=
  match c with
  | '&' => "&amp;".toList
  | '<' => "&lt;".toList
  | '>' => "&gt;".toList
  | '\x7b' => "&#123;".toList
  | '\x7d' => "&#125;".toList
  | c => [c]

/-- A text as written between tags. -/
def escapeText (text : String) : String :=
  String.ofList (text.toList.flatMap escapeChar)

/-- A comment as written between tags. -/
def comment (text : String) : String :=
  "\x7b/*" ++ String.ofList (Text.breakCommentEnds text.toList) ++ "*/\x7d"

end JsxPages.Jsx
