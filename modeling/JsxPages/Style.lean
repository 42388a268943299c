import JsxPages.Jsx.StringLiteral
import JsxPages.Name.Attribute
import JsxPages.Text.Blank
/-!
# Inline styles

An inline style is a list of declarations, cut at the semicolons outside quotes and parentheses.
What it declares falls in two: regular properties, which become the fields of a style object, and
custom properties, whose names begin with `--` and which need a rule of their own. A declaration
repeated takes the later value in the earlier place. Declarations without a usable name or without a
value are left out.
-/

namespace JsxPages

structure Style where
  /-- Fields of the style object, by their names in camel case. -/
  properties : List (String × String) := []
  /-- Custom properties, by their names as written. -/
  customProperties : List (String × String) := []
  deriving DecidableEq, Repr

namespace Style

/-- Where in a style a reader stands: in which quote, and in how many parentheses. -/
structure Nesting where
  quote : Option Char := none
  depth : Nat := 0
  deriving DecidableEq, Repr

/-- Where a reader stands behind a character. -/
def Nesting.next (nesting : Nesting) (c : Char) : Nesting :=
  match nesting.quote with
  | some quote => if c = quote then { nesting with quote := none } else nesting
  | none =>
    if c = '\'' ∨ c = '"' then { nesting with quote := some c }
    else if c = '(' then { nesting with depth := nesting.depth + 1 }
    else if c = ')' then { nesting with depth := nesting.depth - 1 }
    else nesting

/-- Whether a semicolon here ends a declaration. -/
def Nesting.isOutside (nesting : Nesting) : Bool :=
  nesting.quote.isNone && nesting.depth == 0

/-- The parts of a style between the semicolons that end declarations. -/
def splitDeclarations (nesting : Nesting) : List Char → List (List Char)
  | [] => [[]]
  | c :: rest =>
    if c = ';' ∧ nesting.isOutside then
      [] :: splitDeclarations nesting rest
    else
      Text.consFirst c (splitDeclarations (nesting.next c) rest)

/-- A declaration with a usable name and a value. -/
inductive Declaration where
  | regular (property value : String)
  | custom (name value : String)
  deriving DecidableEq, Repr

/-- A value without the mark that gives it precedence. -/
def dropImportant (value : String) : String :=
  match Text.beforeEnding "!important".toList (Text.lower value).toList with
  | some before => Text.trimEnd (String.ofList (value.toList.take before.length))
  | none => value

/-- The field of a style object for a property in lower case. Prefixes of vendors begin with a
capital, that of `-ms-` excepted. -/
def fieldName (property : String) : String :=
  match property.toList with
  | '-' :: 'm' :: 's' :: '-' :: rest => Name.camelCase ("ms-" ++ String.ofList rest)
  | '-' :: rest => Text.capitalize (Name.camelCase (String.ofList rest))
  | _ => Name.camelCase property

def readRegular? (property value : String) : Option Declaration :=
  if property.toList.all (fun c => c.isAlphanum || c == '-') then
    let field := fieldName (Text.lower property)
    let value := dropImportant value
    if value.isEmpty ∨ ¬ Name.isIdentifier field then none else some (.regular field value)
  else
    none

/-- The declaration that a part of a style holds. -/
def readDeclaration? (written : List Char) : Option Declaration := do
  let (property, value) ← Text.cutFirst ':' written
  let property := Text.trim (String.ofList property)
  let value := Text.trim (String.ofList value)
  if property.isEmpty ∨ value.isEmpty then
    none
  else if Name.startsWith "--" property then
    if property = "--" then none else some (.custom property value)
  else
    readRegular? property value

/-- Sets the value of a key, in the place of an earlier one if there is one. -/
def upsert (key value : String) : List (String × String) → List (String × String)
  | [] => [(key, value)]
  | entry :: rest =>
    if entry.1 = key then (key, value) :: rest else entry :: upsert key value rest

def declare (style : Style) : Declaration → Style
  | .regular property value =>
    { style with properties := upsert property value style.properties }
  | .custom name value =>
    { style with customProperties := upsert name value style.customProperties }

/-- The declarations of a style that count. -/
def declarations (css : String) : List Declaration :=
  (splitDeclarations {} css.toList).filterMap readDeclaration?

def ofText (css : String) : Style :=
  (declarations css).foldl declare {}

def fieldText (field : String × String) : String :=
  field.1 ++ ": " ++ Jsx.stringLiteral field.2

/-- The regular properties as an object literal, if there are any. -/
def objectLiteral? (style : Style) : Option String :=
  if style.properties.isEmpty then none
  else some ("\x7b " ++ ", ".intercalate (style.properties.map fieldText) ++ " \x7d")

end Style

end JsxPages
