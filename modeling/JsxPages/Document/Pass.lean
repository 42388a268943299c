import JsxPages.Attribute.Convert
import JsxPages.Document.Frame
import JsxPages.Html.Token
import JsxPages.Jsx.Normalize
import JsxPages.Jsx.Text
/-!
# One pass over the tokens of a document

A pass reads the tokens in their order and writes as it goes. `Pass.step` says what one token does:
it is written to the output for the body or to the one for what stands outside, or it is dropped.
An end tag first closes what is open inside the element it names; at the end of the document
everything open is closed. So what is written is a sequence of complete elements, whatever the
tokens are.

A head that its end tag is missing from ends at the first tag or text that cannot stand in a head.
-/

namespace JsxPages.Document

/-- What a conversion is given besides its document. -/
structure Setting where
  assets : AssetMap := {}
  options : Options := {}

structure Pass where
  /-- What is open, the innermost first. -/
  stack : List Frame := []
  bodySeen : Bool := false
  bodyOpen : Bool := false
  /-- The attributes of the body that was accepted last, as written. -/
  bodyAttributes : Option String := none
  /-- The content of the body. -/
  main : String := ""
  /-- What stands outside the body. -/
  preBody : String := ""
  /-- What was mended, in order. -/
  diagnostics : List Diagnostic := []
  tables : Tables := {}
  deriving DecidableEq, Repr

structure Markup where
  jsx : String
  diagnostics : List Diagnostic
  deriving DecidableEq, Repr

namespace Pass

/-- Whether the pass is inside dropped content. -/
def discarding (pass : Pass) : Bool :=
  pass.stack.head?.any Frame.isDiscarded

/-- Whether tags may close themselves here. -/
def inForeign (pass : Pass) : Bool :=
  pass.stack.any Frame.isForeign

def target (pass : Pass) : Target :=
  if pass.bodyOpen then .main else .preBody

def write (pass : Pass) (target : Target) (text : String) : Pass :=
  match target with
  | .main => { pass with main := pass.main ++ text }
  | .preBody => { pass with preBody := pass.preBody ++ text }

def push (pass : Pass) (frame : Frame) : Pass :=
  { pass with stack := frame :: pass.stack }

def report (pass : Pass) (diagnostic : Diagnostic) : Pass :=
  { pass with diagnostics := pass.diagnostics ++ [diagnostic] }

/-- Ends a head that is still open. -/
def leaveHead (pass : Pass) : Pass :=
  match pass.stack with
  | .discarded "head" :: rest => { pass with stack := rest }
  | _ => pass

/-! ### Start tags -/

/-- Begins the body, unless it is open. -/
def openBody (setting : Setting) (pass : Pass) (attributes : List (String × String)) : Pass :=
  if pass.bodyOpen then
    pass.report .duplicateBody
  else
    let (text, tables) :=
      Attribute.convert setting.assets setting.options setting.options.wrapperTag attributes
        pass.tables
    { pass with
      tables
      bodyAttributes := some text
      bodySeen := true
      bodyOpen := true
      stack := .body :: pass.stack }

/-- Writes a start tag, or a whole element if it closes itself. -/
def openElement (setting : Setting) (pass : Pass) (name : String)
    (attributes : List (String × String)) (closed : Bool) : Pass :=
  let (text, tables) :=
    Attribute.convert setting.assets setting.options name attributes pass.tables
  let pass := { pass with tables }
  let start := "<" ++ name ++ text
  if closed then
    pass.write pass.target (start ++ " />")
  else
    (pass.write pass.target (start ++ ">")).push (.element name pass.target)

/-- What a start tag does where no head is to be ended. `closed` says that the element is complete
with its start tag. -/
def enter (setting : Setting) (pass : Pass) (name : String) (tag : Html.Tag) (closed : Bool) :
    Pass :=
  if pass.discarding then
    if closed then pass else pass.push (.discarded name)
  else if name = "html" then
    pass.push .document
  else if name ∈ discardedElements then
    if tag.selfClosing then pass else pass.push (.discarded name)
  else if name = "body" then
    pass.openBody setting tag.attributes
  else
    pass.openElement setting name tag.attributes closed

def openTag (setting : Setting) (pass : Pass) (tag : Html.Tag) : Pass :=
  let name := Name.canonical tag.name
  let pass := if name ∈ headContent then pass else pass.leaveHead
  let foreign := name == "svg" || name == "math" || pass.inForeign
  pass.enter setting name tag (Name.isVoid name || tag.selfClosing && foreign)

/-! ### End tags -/

/-- Closes a frame that is off the stack. -/
def closeFrame (pass : Pass) : Frame → Pass
  | .element name target => pass.write target ("</" ++ name ++ ">")
  | .body => { pass with bodyOpen := false }
  | .discarded _ | .document => pass

/-- Reports an element that an end tag of another name closes. -/
def reportMismatch (pass : Pass) (found : String) : Frame → Pass
  | .element expected _ => pass.report (.mismatchedClose expected found)
  | _ => pass

/-- Closes the frames of a stack from the innermost on, through the first that an end tag of this
name closes. -/
def closeThrough (name : String) : List Frame → Pass → Pass
  | [], pass => { pass with stack := [] }
  | frame :: rest, pass =>
    if frame.closedBy name then
      { pass.closeFrame frame with stack := rest }
    else
      closeThrough name rest ((pass.reportMismatch name frame).closeFrame frame)

/-- The frames that an end tag may close: inside dropped content, only those of that content. -/
def candidates (pass : Pass) : List Frame :=
  if pass.discarding then pass.stack.takeWhile Frame.isDiscarded else pass.stack

def closeTag (pass : Pass) (written : String) : Pass :=
  let name := Name.canonical written
  if Name.isVoid name then
    pass
  else if pass.candidates.any (·.closedBy name) then
    closeThrough name pass.stack pass
  else if pass.discarding then
    pass
  else
    pass.report (.strayClose name)

/-! ### Text and comments -/

def text (pass : Pass) (piece : String) : Pass :=
  let pass := if Text.isAllBlank piece then pass else pass.leaveHead
  if pass.discarding then pass else pass.write pass.target (Jsx.escapeText piece)

def comment (setting : Setting) (pass : Pass) (text : String) : Pass :=
  if pass.discarding || !setting.options.keepComments then pass
  else pass.write pass.target (Jsx.comment text)

/-! ### The whole pass -/

def step (setting : Setting) (pass : Pass) : Html.Token → Pass
  | .startTag tag => pass.openTag setting tag
  | .endTag name => pass.closeTag name
  | .text piece => pass.text piece
  | .comment text => pass.comment setting text

def run (setting : Setting) (pass : Pass) (tokens : List Html.Token) : Pass :=
  tokens.foldl (step setting) pass

/-- Reports an element that is open at the end. -/
def reportUnclosed (pass : Pass) : Frame → Pass
  | .element name _ => pass.report (.unclosed name)
  | _ => pass

/-- Closes the frames of a stack at the end of the document. -/
def closeAll : List Frame → Pass → Pass
  | [], pass => { pass with stack := [] }
  | frame :: rest, pass => closeAll rest ((pass.reportUnclosed frame).closeFrame frame)

/-- Content inside one root: the element that carries the attributes of the body, or a fragment
where there are none. -/
def wrap (wrapperTag : String) (attributes : Option String) (content : String) : String :=
  match attributes with
  | none | some "" => "<>" ++ content ++ "</>"
  | some text => "<" ++ wrapperTag ++ text ++ ">" ++ content ++ "</" ++ wrapperTag ++ ">"

def closed (pass : Pass) : Pass :=
  let pass := closeAll pass.stack pass
  if pass.bodySeen then pass else pass.report .missingBody

/-- The content of the body, or all content where there was no body. -/
def content (pass : Pass) : String :=
  if pass.bodySeen then pass.main else pass.preBody

/-- What was written, inside one root. -/
def finish (setting : Setting) (pass : Pass) : Markup :=
  let pass := pass.closed
  let jsx := wrap setting.options.wrapperTag pass.bodyAttributes pass.content
  { jsx := if setting.options.normalizeOutput then Jsx.normalize jsx else jsx
    diagnostics := pass.diagnostics }

end Pass

end JsxPages.Document
