import JsxPages.Json.Printer
import JsxPages.Json.Reader
import JsxPages.Jsx.Attribute
import JsxPages.Name.Attribute
import JsxPages.Text.Blank
import JsxPages.Text.Word
/-!
# Values of attributes

What a property is set to, by the kind of attribute: an event handler becomes a function, the usual
spellings of truth values become `true` and `false`, JSON in a `data-` attribute is written in its
shortest form, and a value that already is a simple expression in braces stays one. Everything else
is text.
-/

namespace JsxPages.Attribute

/-- Values that stand for no value at all. -/
def emptyValues : List String :=
  ["\x7b\x7d", "[]", "null"]

/-- Whether an attribute with this value counts as not written. The empty value counts for boolean
attributes. -/
def isAbsent (value : String) (boolean : Bool) : Bool :=
  emptyValues.contains (Text.trim value) || value.isEmpty && !boolean

/-- The statements of a handler, without the scheme they may begin with. -/
def handlerBody (script : String) : String :=
  let script := (Text.trim script).toList
  Text.trim (String.ofList (("javascript:".toList.isPrefixOf? script).getD script))

/-- A script as a function without parameters. The line feed ends a comment that the script may end
in. -/
def handler (script : String) : String :=
  "() => \x7b " ++ handlerBody script ++ "\n\x7d"

/-- The value of a `data-` attribute: arrays and objects are written without blanks. -/
def dataValue (value : String) : Jsx.Value :=
  match Json.Value.ofText? value with
  | some (.array items) => .literal (Json.Value.array items).text
  | some (.object fields) => .literal (Json.Value.object fields).text
  | _ => .literal value

/-- The truth value that a boolean attribute is set to; other values stay text. -/
def booleanValue (name value : String) : Jsx.Value :=
  let written := Text.lower (Text.trim value)
  if written.isEmpty ∨ written = name ∨ written = "true" then .expression "true"
  else if written = "false" then .expression "false"
  else .literal value

/-- Whether a text is an identifier, in which letters of every script may follow the first
character. -/
def isMember : List Char → Bool
  | [] => false
  | c :: rest => Name.isIdentifierStart c && rest.all fun d => Text.isWord d || d == '$'

/-- Whether a text is a path of identifiers with points between them. -/
def isPath (text : List Char) : Bool :=
  (Text.splitWhere (· == '.') text).all isMember

def isDigits (text : List Char) : Bool :=
  !text.isEmpty && text.all Text.isDecimalDigit

/-- Whether a text is digits, with or without a point and digits behind it. -/
def isUnsigned (text : List Char) : Bool :=
  match Text.cutFirst '.' text with
  | none => isDigits text
  | some (whole, fraction) => isDigits whole && isDigits fraction

def isNumber : List Char → Bool
  | '-' :: rest => isUnsigned rest
  | text => isUnsigned text

/-- The simple expression that a value in braces holds: a path of identifiers or a number. -/
def expressionBody? (value : String) : Option String :=
  match (Text.trim value).toList with
  | '\x7b' :: rest =>
    match Text.beforeEnding ['\x7d'] rest with
    | some body =>
      let body := Text.trimWhere Text.isBlank body
      if isPath body ∨ isNumber body then some (String.ofList body) else none
    | none => none
  | _ => none

/-- The value of an attribute that is neither `data-` nor an image. -/
def plainValue (name value : String) : Jsx.Value :=
  match expressionBody? value with
  | some body => .expression body
  | none => if Name.isBoolean name then booleanValue name value else .literal value

end JsxPages.Attribute
