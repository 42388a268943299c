import JsxPages.Text.Blank
/-!
# Minifying a stylesheet

A stylesheet of plain rules is written without the blanks that mean nothing: none around selectors
and declarations, one between the parts of a value, and no semicolon behind the last declaration.
Numbers lose the zeros at their ends. Blocks still open at the end are closed. A closing brace
without a block and a declaration without a colon are errors.
-/

namespace JsxPages.Css

def dropEndZeros (digits : List Char) : List Char :=
  Text.trimEndWhere (· == '0') digits

/-- The shortest form of a number given by its digits before and behind the point. -/
def shortNumber (whole fraction : List Char) : List Char :=
  let whole := whole.dropWhile (· == '0')
  let fraction := dropEndZeros fraction
  if fraction.isEmpty then
    if whole.isEmpty then ['0'] else whole
  else
    whole ++ '.' :: fraction

/-- The shortest form of a number without sign, with or without a unit. -/
def shortUnsigned (text : List Char) : List Char :=
  let whole := text.takeWhile Char.isDigit
  match text.dropWhile Char.isDigit with
  | '.' :: rest =>
    shortNumber whole (rest.takeWhile Char.isDigit) ++ rest.dropWhile Char.isDigit
  | rest => shortNumber whole [] ++ rest

/-- Whether a text begins with a number without sign. -/
def beginsWithNumber : List Char → Bool
  | '.' :: c :: _ => c.isDigit
  | c :: _ => c.isDigit
  | [] => false

/-- The shortest form of a part of a value. -/
def shortWord (word : List Char) : List Char :=
  match word with
  | '-' :: rest => if beginsWithNumber rest then '-' :: shortUnsigned rest else word
  | '+' :: rest => if beginsWithNumber rest then shortUnsigned rest else word
  | _ => if beginsWithNumber word then shortUnsigned word else word

/-- A value with single spaces. -/
def shortValue (value : List Char) : String :=
  " ".intercalate ((Text.wordsWhere Text.isBlank value).map fun word => .ofList (shortWord word))

/-- A declaration without blanks around its colon. -/
def shortDeclaration? (written : List Char) : Option String := do
  let (name, value) ← Text.cutFirst ':' written
  let name := Text.trimWhere Text.isBlank name
  if name.isEmpty then
    none
  else
    some (String.ofList name ++ ":" ++ shortValue value)

/-- The declarations of a block, without blanks between them. -/
def shortBlock? (body : List Char) : Option String := do
  let declarations := (Text.splitWhere (· == ';') body).filter (!·.all Text.isBlank)
  return ";".intercalate (← declarations.mapM shortDeclaration?)

def inSelector (c : Char) : Bool :=
  c != '\x7b' && c != '\x7d'

/-- The rules of a stylesheet, each without needless blanks. -/
def shortRules? (text : List Char) : Option String :=
  match h : text.dropWhile inSelector with
  | [] => if text.all Text.isBlank then some "" else none
  | brace :: rest =>
    have : rest.length < text.length := Text.length_of_dropWhile_eq_cons h
    let selector := Text.trimWhere Text.isBlank (text.takeWhile inSelector)
    if brace = '\x7d' ∨ selector.isEmpty then
      none
    else
      do
        let body ← shortBlock? (rest.takeWhile (· != '\x7d'))
        let others ← shortRules? ((rest.dropWhile (· != '\x7d')).drop 1)
        return String.ofList selector ++ "\x7b" ++ body ++ "\x7d" ++ others
termination_by text.length
decreasing_by
  have bound := Text.length_dropWhile_le (· != '\x7d') rest
  simp only [List.length_drop]
  omega

/-- A stylesheet without needless characters, if it is well-formed. -/
def minify (css : String) : Option String :=
  shortRules? css.toList

end JsxPages.Css
