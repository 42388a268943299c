import JsxPages.Attribute.Value
import JsxPages.Jsx.StartTag
import JsxPages.Name.Event
/-!
# Normalizing JSX

Markup written by hand may still spell attributes the way HTML does. `normalize` respells them in
every complete start tag and copies everything else: classes and hyphenated names get their property
names, inline handlers become functions, and `"true"` and `"false"` of boolean attributes become
expressions.
-/

namespace JsxPages.Jsx

/-- The text of a value, unless it is an expression. -/
def WrittenValue.text? : WrittenValue → Option String
  | quoted text | bare text => some text
  | expression _ => none

/-- A property name for a name with hyphens; other names stay as they are. -/
def propertyOf (name : String) : String :=
  if name.toList.contains '-' ∧ ¬ Name.keepsHyphens (Text.lower name) then
    Name.property (Text.lower name)
  else
    name

/-- The value of an attribute that is neither a class nor a handler. -/
def valueOf (attr : WrittenAttribute) : Option WrittenValue :=
  match attr.value.bind WrittenValue.text? with
  | some text =>
    if Name.isBoolean attr.name ∧ (text = "true" ∨ text = "false") then
      some (.expression ("\x7b" ++ text ++ "\x7d"))
    else
      attr.value
  | none => attr.value

def WrittenAttribute.normalized (attr : WrittenAttribute) : WrittenAttribute :=
  if Text.lower attr.name = "class" then
    ⟨"className", attr.value⟩
  else
    match attr.value.bind WrittenValue.text?, Name.isEvent attr.name with
    | some script, true =>
      ⟨Name.eventProperty attr.name,
        some (.expression ("\x7b" ++ Attribute.handler script ++ "\x7d"))⟩
    | _, _ => ⟨propertyOf attr.name, valueOf attr⟩

/-- A value behind its equals sign. -/
def WrittenValue.written : WrittenValue → String
  | quoted text | bare text => "=" ++ quotedText text
  | expression code => "=" ++ code

/-- An attribute as it is written in normalized markup, with the space in front of it. -/
def WrittenAttribute.written (attr : WrittenAttribute) : String :=
  " " ++ attr.name ++ (attr.value.map WrittenValue.written).getD ""

def StartTag.normalized (tag : StartTag) : String :=
  "<" ++ tag.name ++ String.join (tag.attributes.map fun attr => attr.normalized.written) ++
    (if tag.selfClosing then " />" else ">")

/-- Normalizes every complete start tag of a text. -/
def normalizeFrom : List Char → List Char
  | [] => []
  | c :: rest =>
    match h : StartTag.scan (c :: rest) with
    | some (tag, after) =>
      have : after.length < rest.length + 1 := StartTag.length_scan_lt h
      tag.normalized.toList ++ normalizeFrom after
    | none => c :: normalizeFrom rest
termination_by text => text.length

/-- Markup with the attributes of every complete start tag under their property names. -/
def normalize (source : String) : String :=
  String.ofList (normalizeFrom source.toList)

end JsxPages.Jsx
