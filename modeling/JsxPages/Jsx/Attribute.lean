import JsxPages.Text.Basic
/-!
# Attributes of JSX

An attribute sets a property to a text or to the value of an expression.
-/

namespace JsxPages.Jsx

inductive Value where
  | literal (text : String)
  | expression (code : String)
  deriving DecidableEq, Repr

structure Attribute where
  name : String
  value : Value
  deriving DecidableEq, Repr

/-- A text between double quotes, its own double quotes as character references. -/
def quotedText (text : String) : String :=
  "\"" ++ Text.replace '"' "&quot;" text ++ "\""

/-- A value as written behind the equals sign. -/
def Value.text : Value → String
  | literal text => quotedText text
  | expression code => "\x7b" ++ code ++ "\x7d"

/-- An attribute as written, with the space in front of it. -/
def Attribute.text (attr : Attribute) : String :=
  " " ++ attr.name ++ "=" ++ attr.value.text

def attributesText (attributes : List Attribute) : String :=
  String.join (attributes.map Attribute.text)

end JsxPages.Jsx
