import JsxPages.Toml.Value
/-!
# Reading TOML

A document is read line by line: headers, and keys with their values. Keys may be dotted and quoted;
values are strings in all four spellings, integers of 64 bits, floating point numbers, booleans,
arrays and inline tables. Nothing may be defined twice.
-/

namespace JsxPages.Toml

/-- Whether a character is a blank inside a line. -/
def isBlank (c : Char) : Bool :=
  c == ' ' || c == '\t'

def skipBlanks (text : List Char) : List Char :=
  text.dropWhile isBlank

/-- Whether a character may stand in a comment or a literal string. -/
def isPlain (c : Char) : Bool :=
  c == '\t' || 32 ≤ c.toNat && c.toNat != 127

/-- Drops a comment from the front, if there is one. -/
def skipComment : List Char → List Char
  | '#' :: rest => rest.dropWhile isPlain
  | text => text

/-- Drops the end of a line, which the end of the document may be. -/
def endLine? (text : List Char) : Option (List Char) :=
  match skipComment (skipBlanks text) with
  | [] => some []
  | '\n' :: rest => some rest
  | '\r' :: '\n' :: rest => some rest
  | _ => none

/-- Drops blanks, comments and ends of lines from the front. -/
def skipLines : Nat → List Char → List Char
  | 0, text => text
  | fuel + 1, text =>
    match skipComment (skipBlanks text) with
    | '\n' :: rest => skipLines fuel rest
    | '\r' :: '\n' :: rest => skipLines fuel rest
    | rest => rest

/-! ### Strings -/

def hexDigit? (c : Char) : Option Nat :=
  if c.isDigit then some (c.toNat - '0'.toNat)
  else if 'a' ≤ c ∧ c ≤ 'f' then some (c.toNat - 'a'.toNat + 10)
  else if 'A' ≤ c ∧ c ≤ 'F' then some (c.toNat - 'A'.toNat + 10)
  else none

/-- The character with a code of some hexadecimal digits. -/
def codePoint? (digits : List Char) : Option Char := do
  let code ← digits.foldlM (fun code c => do return code * 16 + (← hexDigit? c)) 0
  if code.isValidChar then some (Char.ofNat code) else none

/-- The character an escape letter stands for. -/
def escaped? : Char → Option Char
  | 'b' => some '\x08'
  | 't' => some '\t'
  | 'n' => some '\n'
  | 'f' => some '\x0c'
  | 'r' => some '\r'
  | '"' => some '"'
  | '\\' => some '\\'
  | _ => none

/-- Puts a character in front of a string that was read. -/
def prepend (c : Option Char) (read : Option (List Char × List Char)) :
    Option (List Char × List Char) := do
  let c ← c
  let (chars, rest) ← read
  return (c :: chars, rest)

/-- The rest of a string in double quotes. -/
def readBasic : List Char → Option (List Char × List Char)
  | [] => none
  | '"' :: rest => some ([], rest)
  | '\\' :: 'u' :: a :: b :: c :: d :: rest => prepend (codePoint? [a, b, c, d]) (readBasic rest)
  | '\\' :: 'U' :: a :: b :: c :: d :: e :: f :: g :: h :: rest =>
    prepend (codePoint? [a, b, c, d, e, f, g, h]) (readBasic rest)
  | '\\' :: c :: rest => prepend (escaped? c) (readBasic rest)
  | c :: rest => if isPlain c then prepend (some c) (readBasic rest) else none

/-- The rest of a string in single quotes. -/
def readLiteral : List Char → Option (List Char × List Char)
  | [] => none
  | '\'' :: rest => some ([], rest)
  | c :: rest => if isPlain c then prepend (some c) (readLiteral rest) else none

/-- Drops a line end from the front, which does not belong to a string that begins there. -/
def dropFirstLineEnd : List Char → List Char
  | '\n' :: rest => rest
  | '\r' :: '\n' :: rest => rest
  | text => text

/-- How many quotes a text begins with, five at most. -/
def countQuotes (quote : Char) (text : List Char) : Nat :=
  ((text.take 5).takeWhile (· == quote)).length

/-- What follows a backslash at the end of a line: blanks and line ends to the next character. -/
def skipContinuation? (text : List Char) : Option (List Char) :=
  match skipBlanks text with
  | '\n' :: rest => some (rest.dropWhile fun c => isBlank c || c == '\n' || c == '\r')
  | '\r' :: '\n' :: rest => some (rest.dropWhile fun c => isBlank c || c == '\n' || c == '\r')
  | _ => none

/-- The rest of a string between three quotes. Up to two quotes may stand in front of its end, and a
line ends in a line feed alone. -/
def readLong (quote : Char) : Nat → List Char → Option (List Char × List Char)
  | 0, _ => none
  | _, [] => none
  | fuel + 1, c :: rest =>
    if c = quote ∧ 3 ≤ countQuotes quote (c :: rest) then
      let count := countQuotes quote (c :: rest)
      some (List.replicate (count - 3) quote, (c :: rest).drop count)
    else if c = '\\' ∧ quote = '"' then
      match skipContinuation? rest with
      | some rest => readLong quote fuel rest
      | none =>
        match rest with
        | 'u' :: rest => prepend (codePoint? (rest.take 4)) (readLong quote fuel (rest.drop 4))
        | 'U' :: rest => prepend (codePoint? (rest.take 8)) (readLong quote fuel (rest.drop 8))
        | d :: rest => prepend (escaped? d) (readLong quote fuel rest)
        | [] => none
    else if c = '\r' then
      match rest with
      | '\n' :: rest => prepend (some '\n') (readLong quote fuel rest)
      | _ => none
    else if isPlain c ∨ c = '\n' then
      prepend (some c) (readLong quote fuel rest)
    else
      none

/-- A string on one line, from its first quote on. -/
def readShort? : List Char → Option (String × List Char)
  | '"' :: rest => (readBasic rest).map fun (chars, rest) => (.ofList chars, rest)
  | '\'' :: rest => (readLiteral rest).map fun (chars, rest) => (.ofList chars, rest)
  | _ => none

/-- A string in any spelling, from its first quote on. -/
def readString? (text : List Char) : Option (String × List Char) :=
  match text with
  | '"' :: '"' :: '"' :: rest =>
    (readLong '"' (rest.length + 1) (dropFirstLineEnd rest)).map fun (chars, rest) =>
      (.ofList chars, rest)
  | '\'' :: '\'' :: '\'' :: rest =>
    (readLong '\'' (rest.length + 1) (dropFirstLineEnd rest)).map fun (chars, rest) =>
      (.ofList chars, rest)
  | _ => readShort? text

/-! ### Keys -/

/-- Whether a character belongs to a key without quotes. -/
def inBareKey (c : Char) : Bool :=
  c.isAlphanum || c == '_' || c == '-'

def readKeyPart? (text : List Char) : Option (String × List Char) :=
  match text with
  | '"' :: _ | '\'' :: _ => readShort? text
  | _ =>
    let key := text.takeWhile inBareKey
    if key.isEmpty then none else some (.ofList key, text.dropWhile inBareKey)

/-- A key: the parts in front of the last, and the last. -/
def readKey? : Nat → List Char → Option ((List String × String) × List Char)
  | 0, _ => none
  | fuel + 1, text => do
    let (key, rest) ← readKeyPart? (skipBlanks text)
    match skipBlanks rest with
    | '.' :: rest =>
      let ((path, last), rest) ← readKey? fuel rest
      return ((key :: path, last), rest)
    | rest => return (([], key), rest)

/-! ### Numbers -/

/-- The digits of a number, which may have single underscores between them. -/
def digits? (isDigit : Char → Bool) : List Char → Option (List Char)
  | [] => none
  | [c] => if isDigit c then some [c] else none
  | c :: '_' :: rest => if isDigit c then (digits? isDigit rest).map (c :: ·) else none
  | c :: rest => if isDigit c then (digits? isDigit rest).map (c :: ·) else none

def number (base : Nat) (digits : List Char) : Nat :=
  digits.foldl (fun n c => n * base + (hexDigit? c).getD 0) 0

/-- Decimal digits without needless zeros. -/
def decimal? (text : List Char) : Option (List Char) := do
  let digits ← digits? Char.isDigit text
  if digits.head? = some '0' ∧ 1 < digits.length then none else some digits

def fitting? (value : Int) : Option Value :=
  let limit := Int.ofNat (Nat.pow 2 63)
  if -limit ≤ value ∧ value < limit then some (.integer value) else none

/-- Whether a text is the exponent of a floating point number. -/
def isExponent (text : List Char) : Bool :=
  match text with
  | '+' :: rest | '-' :: rest => (digits? Char.isDigit rest).isSome
  | _ => (digits? Char.isDigit text).isSome

/-- Whether a text is a floating point number without sign. -/
def isReal (text : List Char) : Bool :=
  if text = ['i', 'n', 'f'] ∨ text = ['n', 'a', 'n'] then
    true
  else
    let mantissa := text.takeWhile fun c => c != 'e' && c != 'E'
    let whole := mantissa.takeWhile (· != '.')
    let fraction := mantissa.dropWhile (· != '.')
    let exponent := text.drop mantissa.length
    (decimal? whole).isSome && (fraction.isEmpty || (digits? Char.isDigit fraction.tail).isSome) &&
      (exponent.isEmpty || isExponent exponent.tail)

def unsigned? (negative signed : Bool) (text : List Char) : Option Value :=
  match signed, text with
  | false, '0' :: 'x' :: rest =>
    (digits? (fun c => (hexDigit? c).isSome) rest).bind fun digits => fitting? (number 16 digits)
  | false, '0' :: 'o' :: rest =>
    (digits? (fun c => '0' ≤ c && c ≤ '7') rest).bind fun digits => fitting? (number 8 digits)
  | false, '0' :: 'b' :: rest =>
    (digits? (fun c => c == '0' || c == '1') rest).bind fun digits => fitting? (number 2 digits)
  | _, _ =>
    match decimal? text with
    | some digits =>
      let value := Int.ofNat (number 10 digits)
      fitting? (if negative then -value else value)
    | none => if isReal text then some (.real (.ofList text)) else none

/-- A value without quotes or brackets. -/
def plainValue? (text : List Char) : Option Value :=
  if text = "true".toList then some (.boolean true)
  else if text = "false".toList then some (.boolean false)
  else
    match text with
    | '-' :: rest => unsigned? true true rest
    | '+' :: rest => unsigned? false true rest
    | _ => unsigned? false false text

/-- Whether a character belongs to a value without quotes or brackets. -/
def inPlainValue (c : Char) : Bool :=
  c.isAlphanum || c == '+' || c == '-' || c == '.' || c == '_'

/-! ### Values -/

mutual

def readValue? : Nat → List Char → Option (Value × List Char)
  | 0, _ => none
  | fuel + 1, text =>
    match text with
    | '"' :: _ | '\'' :: _ =>
      (readString? text).map fun (value, rest) => (.string value, rest)
    | '[' :: rest => (readItems? fuel rest).map fun (items, rest) => (.array items, rest)
    | '\x7b' :: rest =>
      match skipBlanks rest with
      | '\x7d' :: rest => some (.table [], rest)
      | rest => (readFields? fuel [] rest).map fun (entries, rest) =>
          (.table (entryValues entries), rest)
    | _ =>
      (plainValue? (text.takeWhile inPlainValue)).map fun value =>
        (value, text.dropWhile inPlainValue)

def readItems? : Nat → List Char → Option (List Value × List Char)
  | 0, _ => none
  | fuel + 1, text =>
    match skipLines text.length text with
    | ']' :: rest => some ([], rest)
    | text => do
      let (item, rest) ← readValue? fuel text
      match skipLines rest.length rest with
      | ']' :: rest => return ([item], rest)
      | ',' :: rest =>
        let (items, rest) ← readItems? fuel rest
        return (item :: items, rest)
      | _ => none

/-- Reads the entries of an inline table and its end. -/
def readFields? : Nat → Entries → List Char → Option (Entries × List Char)
  | 0, _, _ => none
  | fuel + 1, entries, text => do
    let ((path, key), rest) ← readKey? text.length text
    match rest with
    | '=' :: rest =>
      let (value, rest) ← readValue? fuel (skipBlanks rest)
      let entries ← addValue value path key entries
      match skipBlanks rest with
      | '\x7d' :: rest => return (entries, rest)
      | ',' :: rest => readFields? fuel entries rest
      | _ => none
    | _ => none

end

/-! ### Documents -/

/-- The header of a table, behind its brackets: the key, and what follows the closing brackets. -/
def readHeader? (closing text : List Char) : Option ((List String × String) × List Char) := do
  let (key, rest) ← readKey? text.length text
  let rest ← closing.isPrefixOf? rest
  return (key, ← endLine? rest)

/-- Reads lines. `table` is the path of the header above them. -/
def readLines? : Nat → List String → Entries → List Char → Option Entries
  | 0, _, _, _ => none
  | fuel + 1, table, entries, text =>
    match skipLines text.length text with
    | [] => some entries
    | '[' :: '[' :: rest => do
      let ((path, key), rest) ← readHeader? [']', ']'] rest
      readLines? fuel (path ++ [key]) (← changeAt false (beginTables key) path entries) rest
    | '[' :: rest => do
      let ((path, key), rest) ← readHeader? [']'] rest
      readLines? fuel (path ++ [key]) (← changeAt false (beginTable key) path entries) rest
    | text => do
      let ((path, key), rest) ← readKey? text.length text
      let rest ← ['='].isPrefixOf? rest
      let (value, rest) ← readValue? (2 * rest.length + 2) (skipBlanks rest)
      let entries ← changeAt false (addValue value path key) table entries
      readLines? fuel table entries (← endLine? rest)

/-- The entries of a document. Each line takes a character at least, so that the fuel is enough for
every text. -/
def readDocument? (text : String) : Option (List (String × Value)) :=
  let chars :=
    match text.toList with
    | '\uFEFF' :: rest => rest
    | chars => chars
  (readLines? (chars.length + 1) [] [] chars).map entryValues

end JsxPages.Toml
