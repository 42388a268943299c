import JsxPages.Name.Element
/-!
# Open elements

While a document is read, a stack holds what is open: elements that are written, the body and the
document themselves, which only stand for their content, and elements that are dropped together with
everything inside them.
-/

namespace JsxPages.Document

/-- The two outputs: what belongs to the body and what stands outside it. -/
inductive Target where
  | main
  | preBody
  deriving DecidableEq, Repr

/-- Something open. -/
inductive Frame where
  /-- An element that was written to an output. -/
  | element (name : String) (target : Target)
  /-- An element that is dropped, or one inside such an element. -/
  | discarded (name : String)
  /-- The body. -/
  | body
  /-- The document. -/
  | document
  deriving DecidableEq, Repr

namespace Frame

/-- Whether an end tag of this name closes the frame. -/
def closedBy (name : String) : Frame → Bool
  | element open' _ => open' == name
  | discarded open' => open' == name
  | body => name == "body"
  | document => name == "html"

/-- Whether the frame is dropped content. -/
def isDiscarded : Frame → Bool
  | discarded _ => true
  | _ => false

/-- Whether the frame is a written element in which tags may close themselves. -/
def isForeign : Frame → Bool
  | element name _ => name == "svg" || name == "math"
  | _ => false

end Frame

/-- Elements that are dropped with everything inside them. -/
def discardedElements : List String :=
  ["head", "script", "noscript", "iframe", "style"]

/-- Elements that may stand in the head; any other ends it. -/
def headContent : List String :=
  ["base", "basefont", "bgsound", "link", "meta", "noscript", "script", "style", "template",
    "title"]

/-- Something in a document that was mended. -/
inductive Diagnostic where
  /-- An end tag closed an element that was still open inside the one it names. -/
  | mismatchedClose (expected found : String)
  /-- An end tag had nothing to close. -/
  | strayClose (name : String)
  /-- An element was open at the end of the document. -/
  | unclosed (name : String)
  /-- A body began inside the body. -/
  | duplicateBody
  /-- There was no body. -/
  | missingBody
  deriving DecidableEq, Repr

end JsxPages.Document
