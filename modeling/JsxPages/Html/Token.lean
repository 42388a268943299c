/-!
# Tokens of an HTML document

A document is a sequence of tags, pieces of text and comments. Declarations such as the document
type and what stands in an unfinished tag leave no token.

After some start tags the text up to the matching end tag is not markup. `RawKind.after` says which,
and it looks at the tag alone: the name as written in lower case, and whether the tag closes itself.
-/

namespace JsxPages.Html

structure Tag where
  name : String
  /-- Names in lower case, each at most once, with their values. -/
  attributes : List (String × String)
  selfClosing : Bool
  deriving DecidableEq, Repr

inductive Token where
  | startTag (tag : Tag)
  | endTag (name : String)
  /-- A piece of text; neighbouring pieces belong together. -/
  | text (piece : String)
  | comment (text : String)
  deriving DecidableEq, Repr

/-- What the content of an element is, where it is not markup. -/
inductive RawKind where
  /-- A program, which may hold its own end tag inside a comment. -/
  | script
  /-- Text without character references. -/
  | verbatim
  /-- Text with character references. -/
  | decoded
  deriving DecidableEq, Repr

/-- The elements whose content is not markup. -/
def RawKind.ofName? (name : String) : Option RawKind :=
  if name = "script" then some .script
  else if name ∈ ["style", "noscript", "iframe", "xmp", "noembed", "noframes"] then some .verbatim
  else if name = "title" ∨ name = "textarea" then some .decoded
  else none

/-- How the content of a start tag is to be read, if not as markup. -/
def RawKind.after (tag : Tag) : Option RawKind :=
  if tag.selfClosing then none else ofName? tag.name

end JsxPages.Html
