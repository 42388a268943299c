import JsxPages.Json.Value
/-!
# Reading JSON

The grammar is the strict one: no comments, no commas at the end, no lone surrogates, no controls in
strings, and a number that is too great is an error. Arrays and objects nest at most 127 deep.
-/

namespace JsxPages.Json

def skipSpace (text : List Char) : List Char :=
  text.dropWhile fun c => c == ' ' || c == '\n' || c == '\t' || c == '\r'

/-! ### Strings -/

def hexDigit? (c : Char) : Option Nat :=
  if c.isDigit then some (c.toNat - '0'.toNat)
  else if 'a' ≤ c ∧ c ≤ 'f' then some (c.toNat - 'a'.toNat + 10)
  else if 'A' ≤ c ∧ c ≤ 'F' then some (c.toNat - 'A'.toNat + 10)
  else none

/-- The value of four hexadecimal digits. -/
def codeUnit? (a b c d : Char) : Option Nat := do
  return (((← hexDigit? a) * 16 + (← hexDigit? b)) * 16 + (← hexDigit? c)) * 16 + (← hexDigit? d)

/-- The character of two surrogates. -/
def joinSurrogates? (high low : Nat) : Option Char :=
  if 0xD800 ≤ high ∧ high < 0xDC00 ∧ 0xDC00 ≤ low ∧ low < 0xE000 then
    some (Char.ofNat (0x10000 + (high - 0xD800) * 0x400 + (low - 0xDC00)))
  else
    none

/-- The character an escape letter stands for. -/
def escaped? : Char → Option Char
  | '"' => some '"'
  | '\\' => some '\\'
  | '/' => some '/'
  | 'b' => some '\x08'
  | 'f' => some '\x0c'
  | 'n' => some '\n'
  | 'r' => some '\r'
  | 't' => some '\t'
  | _ => none

/-- Puts a character in front of a string that was read. -/
def prepend (c : Option Char) (read : Option (List Char × List Char)) :
    Option (List Char × List Char) := do
  let c ← c
  let (chars, rest) ← read
  return (c :: chars, rest)

/-- The rest of a string whose first quote is read already, and what follows it. -/
def readString : List Char → Option (List Char × List Char)
  | [] => none
  | '"' :: rest => some ([], rest)
  | '\\' :: 'u' :: a :: b :: c :: d :: rest =>
    match codeUnit? a b c d with
    | none => none
    | some unit =>
      if unit < 0xD800 ∨ 0xE000 ≤ unit then
        prepend (some (Char.ofNat unit)) (readString rest)
      else
        match rest with
        | '\\' :: 'u' :: e :: f :: g :: h :: rest =>
          prepend ((codeUnit? e f g h).bind (joinSurrogates? unit)) (readString rest)
        | _ => none
  | '\\' :: c :: rest => prepend (escaped? c) (readString rest)
  | c :: rest => if c.toNat < 32 then none else prepend (some c) (readString rest)

/-! ### Numbers -/

def maxSignificand : Nat := Nat.pow 2 64 - 1

def digitValue (c : Char) : Nat :=
  c.toNat - '0'.toNat

/-- The digits before the point: the significand as far as it fits, and how many digits are left
out behind it. -/
def wholePart (digits : List Char) : Nat × Nat :=
  digits.foldl
    (fun (significand, dropped) c =>
      if 0 < dropped ∨ maxSignificand < significand * 10 + digitValue c then
        (significand, dropped + 1)
      else
        (significand * 10 + digitValue c, dropped))
    (0, 0)

/-- Takes digits behind the point for as long as they fit; counts the digits taken. -/
def fractionPart (significand taken : Nat) : List Char → Nat × Nat
  | [] => (significand, taken)
  | c :: rest =>
    if maxSignificand < significand * 10 + digitValue c then (significand, taken)
    else fractionPart (significand * 10 + digitValue c) (taken + 1) rest

/-- The written parts of a number. -/
structure NumberParts where
  whole : List Char
  fraction : Option (List Char)
  exponent : Option Int

/-- Reads a point and the digits behind it, if there is one. -/
def readFraction : List Char → Option (Option (List Char) × List Char)
  | '.' :: rest =>
    let digits := rest.takeWhile Char.isDigit
    if digits.isEmpty then none else some (some digits, rest.dropWhile Char.isDigit)
  | text => some (none, text)

def readExponentDigits (negative : Bool) (text : List Char) : Option (Option Int × List Char) :=
  let digits := text.takeWhile Char.isDigit
  let value := Int.ofNat (digits.foldl (fun n c => n * 10 + digitValue c) 0)
  if digits.isEmpty then none
  else some (some (if negative then -value else value), text.dropWhile Char.isDigit)

def readExponent (text : List Char) : Option (Option Int × List Char) :=
  match text with
  | [] => some (none, [])
  | e :: rest =>
    if e = 'e' ∨ e = 'E' then
      match rest with
      | '-' :: rest => readExponentDigits true rest
      | '+' :: rest => readExponentDigits false rest
      | rest => readExponentDigits false rest
    else
      some (none, text)

/-- Reads a number behind its sign. -/
def readParts (text : List Char) : Option (NumberParts × List Char) := do
  let whole := text.takeWhile Char.isDigit
  if whole.isEmpty ∨ whole.head? = some '0' ∧ 1 < whole.length then
    none
  let (fraction, rest) ← readFraction (text.dropWhile Char.isDigit)
  let (exponent, rest) ← readExponent rest
  return (⟨whole, fraction, exponent⟩, rest)

/-- The value of a number. Integers that fit 64 bits stay integers, save for minus zero. -/
def NumberParts.value (negative : Bool) (parts : NumberParts) : Option Number :=
  let (significand, dropped) := wholePart parts.whole
  let isInteger := parts.fraction.isNone && parts.exponent.isNone && dropped == 0
  if isInteger && !negative then
    some (.integer significand)
  else if isInteger && significand != 0 && significand ≤ Nat.pow 2 63 then
    some (.integer (-Int.ofNat significand))
  else
    let (significand, taken) := fractionPart significand 0 (parts.fraction.getD [])
    let exponent := Int.ofNat dropped - Int.ofNat taken + parts.exponent.getD 0
    (Number.fromParts significand exponent).map (.real negative)

def readNumber (negative : Bool) (text : List Char) : Option (Value × List Char) := do
  let (parts, rest) ← readParts text
  return (.number (← parts.value negative), rest)

/-! ### Values -/

mutual

/-- Reads a value with at most `depth` arrays and objects around each other. -/
def readValue : Nat → Nat → List Char → Option (Value × List Char)
  | 0, _, _ => none
  | fuel + 1, depth, text =>
    match skipSpace text with
    | 'n' :: 'u' :: 'l' :: 'l' :: rest => some (.null, rest)
    | 't' :: 'r' :: 'u' :: 'e' :: rest => some (.boolean true, rest)
    | 'f' :: 'a' :: 'l' :: 's' :: 'e' :: rest => some (.boolean false, rest)
    | '"' :: rest => (readString rest).map fun (chars, rest) => (.string (.ofList chars), rest)
    | '[' :: rest =>
      if depth = 0 then
        none
      else
        match skipSpace rest with
        | ']' :: rest => some (.array [], rest)
        | rest => (readItems fuel (depth - 1) rest).map fun (items, rest) => (.array items, rest)
    | '\x7b' :: rest =>
      if depth = 0 then
        none
      else
        match skipSpace rest with
        | '\x7d' :: rest => some (.object [], rest)
        | rest => readFields fuel (depth - 1) [] rest
    | '-' :: rest => readNumber true rest
    | text => readNumber false text

def readItems : Nat → Nat → List Char → Option (List Value × List Char)
  | 0, _, _ => none
  | fuel + 1, depth, text => do
    let (item, rest) ← readValue fuel depth text
    match skipSpace rest with
    | ']' :: rest => return ([item], rest)
    | ',' :: rest =>
      let (items, rest) ← readItems fuel depth rest
      return (item :: items, rest)
    | _ => none

def readFields : Nat → Nat → List (String × Value) → List Char → Option (Value × List Char)
  | 0, _, _, _ => none
  | fuel + 1, depth, fields, text =>
    match skipSpace text with
    | '"' :: rest => do
      let (name, rest) ← readString rest
      match skipSpace rest with
      | ':' :: rest =>
        let (value, rest) ← readValue fuel depth rest
        let fields := setField (.ofList name) value fields
        match skipSpace rest with
        | '\x7d' :: rest => return (.object fields, rest)
        | ',' :: rest => readFields fuel depth fields rest
        | _ => none
      | _ => none
    | _ => none

end

def maxDepth : Nat := 127

/-- The value a text holds. Each array and each of its items takes a character at least, so that the
fuel is enough for every text. -/
def Value.ofText? (text : String) : Option Value :=
  match readValue (2 * text.toList.length + 2) maxDepth text.toList with
  | some (value, rest) => if (skipSpace rest).isEmpty then some value else none
  | none => none

end JsxPages.Json
