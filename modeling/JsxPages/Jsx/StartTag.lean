import JsxPages.Jsx.Expression
import JsxPages.Text.Blank
import JsxPages.Text.Split
import JsxPages.Text.Word
/-!
# Reading a start tag of JSX

`StartTag.scan` reads a start tag from its `<` to its `>`, with attributes as they are written:
without a value, with a text in quotes or without, or with an expression in braces. A text that does
not begin with a complete start tag is refused. What follows a tag is shorter than what was read.
-/

namespace JsxPages.Jsx

inductive WrittenValue where
  /-- The text between two quotes. -/
  | quoted (text : String)
  /-- An expression with its braces. -/
  | expression (code : String)
  /-- A text without quotes. -/
  | bare (text : String)
  deriving DecidableEq, Repr

structure WrittenAttribute where
  name : String
  value : Option WrittenValue
  deriving DecidableEq, Repr

structure StartTag where
  name : String
  attributes : List WrittenAttribute
  selfClosing : Bool
  deriving DecidableEq, Repr

/-- Whether a character belongs to the name of a tag, the first letter aside. -/
def inTagName (c : Char) : Bool :=
  Text.isWord c || c == '.' || c == ':' || c == '-'

/-- The characters that end the name of an attribute, blanks aside. -/
def attributeNameEnds : List Char :=
  ['"', '\'', '<', '>', '/', '=', '\x7b', '\x7d']

def inAttributeName (c : Char) : Bool :=
  !Text.isBlank c && !attributeNameEnds.contains c

def inBareValue (c : Char) : Bool :=
  !Text.isBlank c && c != '>'

/-- How many characters a value without quotes has. A slash in front of the end of the tag is not
part of it. -/
def bareLength (text : List Char) : Nat :=
  let value := text.takeWhile inBareValue
  if value.getLast? = some '/' ∧ (text.dropWhile inBareValue).head? = some '>' then
    value.length - 1
  else
    value.length

/-- Reads a text in quotes, whose first quote is read already. -/
def scanQuoted (quote : Char) (text : List Char) : Option (WrittenValue × List Char) :=
  (Text.cutFirst quote text).map fun (value, rest) => (.quoted (.ofList value), rest)

def scanValue (text : List Char) : Option (WrittenValue × List Char) :=
  match text with
  | [] => none
  | c :: rest =>
    if c = '"' ∨ c = '\'' then
      scanQuoted c rest
    else if c = '\x7b' then
      (expressionLength text).map fun length =>
        (.expression (.ofList (text.take length)), text.drop length)
    else if bareLength text = 0 then
      none
    else
      some (.bare (.ofList (text.take (bareLength text))), text.drop (bareLength text))

/-- Reads the equals sign and the value behind the name of an attribute, if they are there. -/
def scanAssignment (text : List Char) : Option (Option WrittenValue × List Char) :=
  match text.dropWhile Text.isBlank with
  | '=' :: rest =>
    (scanValue (rest.dropWhile Text.isBlank)).map fun (value, rest) => (some value, rest)
  | _ => some (none, text)

/-- What stands between the name of a tag and its end, and what follows the tag. -/
structure StartTagTail where
  attributes : List WrittenAttribute
  selfClosing : Bool
  rest : List Char
  deriving DecidableEq, Repr

theorem length_cutFirst_lt {c : Char} {text before after : List Char}
    (h : Text.cutFirst c text = some (before, after)) : after.length < text.length := by
  unfold Text.cutFirst at h
  split at h
  · simp at h
  · rename_i dropped
    have shorter := Text.length_of_dropWhile_eq_cons dropped
    simp only [Option.some.injEq, Prod.mk.injEq] at h
    obtain ⟨_, rfl⟩ := h
    exact shorter

theorem length_scanValue_le {text rest : List Char} {value : WrittenValue}
    (h : scanValue text = some (value, rest)) : rest.length ≤ text.length := by
  unfold scanValue at h
  split at h
  · simp at h
  · split at h
    · simp only [scanQuoted, Option.map_eq_some_iff, Prod.mk.injEq] at h
      obtain ⟨⟨_, _⟩, cut, _, rfl⟩ := h
      have := length_cutFirst_lt cut
      simp only [List.length_cons]
      omega
    · split at h
      · simp only [Option.map_eq_some_iff, Prod.mk.injEq] at h
        obtain ⟨_, _, _, rfl⟩ := h
        simp
      · split at h
        · simp at h
        · simp only [Option.some.injEq, Prod.mk.injEq] at h
          obtain ⟨_, rfl⟩ := h
          simp

theorem length_scanAssignment_le {text rest : List Char} {value : Option WrittenValue}
    (h : scanAssignment text = some (value, rest)) : rest.length ≤ text.length := by
  unfold scanAssignment at h
  have blanks := Text.length_dropWhile_le Text.isBlank text
  split at h
  · rename_i after dropped
    rw [dropped, List.length_cons] at blanks
    simp only [Option.map_eq_some_iff, Prod.mk.injEq] at h
    obtain ⟨⟨_, _⟩, scanned, _, rfl⟩ := h
    have := length_scanValue_le scanned
    have := Text.length_dropWhile_le Text.isBlank after
    simp only
    omega
  · simp only [Option.some.injEq, Prod.mk.injEq] at h
    obtain ⟨_, rfl⟩ := h
    exact Nat.le_refl _

/-- Reads attributes up to the end of the tag. -/
def scanAttributes (text : List Char) : Option StartTagTail :=
  match h : text.dropWhile Text.isBlank with
  | [] => none
  | c :: rest =>
    if c = '>' then
      some ⟨[], false, rest⟩
    else if c = '/' ∧ rest.head? = some '>' then
      some ⟨[], true, rest.tail⟩
    else if inAttributeName c then
      match h' : scanAssignment (rest.dropWhile inAttributeName) with
      | none => none
      | some (value, after) =>
        have : after.length < text.length := Nat.lt_of_le_of_lt
          (Nat.le_trans (length_scanAssignment_le h') (Text.length_dropWhile_le _ rest))
          (Text.length_of_dropWhile_eq_cons h)
        (scanAttributes after).map fun tail =>
          { tail with
            attributes :=
              ⟨.ofList (c :: rest.takeWhile inAttributeName), value⟩ :: tail.attributes }
    else
      none
termination_by text.length

theorem length_scanAttributes_lt {text : List Char} {tail : StartTagTail}
    (h : scanAttributes text = some tail) : tail.rest.length < text.length := by
  fun_induction scanAttributes text generalizing tail with
  | case1 => simp at h
  | case2 _ _ dropped =>
    cases h
    exact Text.length_of_dropWhile_eq_cons dropped
  | case3 _ _ rest dropped =>
    cases h
    have := Text.length_of_dropWhile_eq_cons dropped
    simp only [List.length_tail]
    omega
  | case4 => simp at h
  | case5 text _ _ _ _ _ _ _ _ _ shorter ih =>
    obtain ⟨tail', scanned, rfl⟩ := Option.map_eq_some_iff.1 h
    have := ih scanned
    simp only
    omega
  | case6 => simp at h

/-- The start tag that a text begins with, and what follows it. -/
def StartTag.scan (text : List Char) : Option (StartTag × List Char) :=
  match text with
  | '<' :: c :: rest =>
    if c.isAlpha then
      (scanAttributes (rest.dropWhile inTagName)).map fun tail =>
        (⟨.ofList (c :: rest.takeWhile inTagName), tail.attributes, tail.selfClosing⟩, tail.rest)
    else
      none
  | _ => none

theorem StartTag.length_scan_lt {text rest : List Char} {tag : StartTag}
    (h : StartTag.scan text = some (tag, rest)) : rest.length < text.length := by
  unfold StartTag.scan at h
  split at h
  · split at h
    · rename_i after _
      obtain ⟨tail, scanned, same⟩ := Option.map_eq_some_iff.1 h
      simp only [Prod.mk.injEq] at same
      obtain ⟨_, rfl⟩ := same
      have := length_scanAttributes_lt scanned
      have := Text.length_dropWhile_le inTagName after
      simp only [List.length_cons]
      omega
    · simp at h
  · simp at h

end JsxPages.Jsx
