import JsxPages.Json.Value
/-!
# Writing JSON

Values are written without blanks. In strings only quotes, backslashes and controls are escaped.
-/

namespace JsxPages.Json

def escapeChar (c : Char) : List Char :=
  match c with
  | '"' => ['\\', '"']
  | '\\' => ['\\', '\\']
  | '\x08' => ['\\', 'b']
  | '\x0c' => ['\\', 'f']
  | '\n' => ['\\', 'n']
  | '\r' => ['\\', 'r']
  | '\t' => ['\\', 't']
  | c =>
    if c.toNat < 32 then
      ['\\', 'u', '0', '0', Nat.digitChar (c.toNat / 16), Nat.digitChar (c.toNat % 16)]
    else
      [c]

/-- A string with its quotes. -/
def stringText (value : String) : String :=
  String.ofList ('"' :: value.toList.flatMap escapeChar ++ ['"'])

mutual

/-- A value without blanks. -/
def Value.text : Value → String
  | .null => "null"
  | .boolean true => "true"
  | .boolean false => "false"
  | .number value => String.ofList value.text
  | .string value => stringText value
  | .array items => "[" ++ itemsText items ++ "]"
  | .object fields => "\x7b" ++ fieldsText fields ++ "\x7d"

/-- The items of an array, with commas between them. -/
def itemsText : List Value → String
  | [] => ""
  | [item] => item.text
  | item :: next :: rest => item.text ++ "," ++ itemsText (next :: rest)

/-- The fields of an object, with commas between them. -/
def fieldsText : List (String × Value) → String
  | [] => ""
  | [field] => stringText field.1 ++ ":" ++ field.2.text
  | field :: next :: rest =>
    stringText field.1 ++ ":" ++ field.2.text ++ "," ++ fieldsText (next :: rest)

end

end JsxPages.Json
