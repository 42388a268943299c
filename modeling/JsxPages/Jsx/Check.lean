import JsxPages.Image.Identifier
import JsxPages.Name.Attribute
import JsxPages.Text.Blank
import JsxPages.Text.Word
/-!
# Checking a module

A reader goes through a module once and keeps what is open: brackets, elements, and expressions in
braces inside elements. A module is accepted if every bracket is closed by its own kind and every
element by an end tag of its own name, if no brace or angle bracket stands bare in the text of an
element, and if no value follows another without an operator between them on the same line. Strings,
comments and templates are read as wholes.
-/

namespace JsxPages.Jsx.Check

/-- Something open. -/
inductive Context where
  /-- A parenthesis, which may be the head of a statement such as `if`. -/
  | round (head : Bool)
  | square
  | curly
  /-- An expression inside a template. -/
  | template
  /-- An expression inside the start tag of an element. -/
  | inTag (name : List Char)
  /-- An expression among the children of an element. -/
  | inChildren
  /-- An element whose children are read. -/
  | element (name : List Char)
  deriving DecidableEq, Repr

/-- What stands before a piece of code. -/
inductive Before where
  /-- Something that a value may follow. -/
  | operator
  /-- A value on the same line. -/
  | value
  /-- A value on a line before, or a block. -/
  | ended
  /-- An element. -/
  | element
  /-- A point, which a name follows. -/
  | point
  /-- A word such as `if`, which a parenthesis follows. -/
  | headWord
  /-- The word `function`. -/
  | functionWord
  /-- The name of a function. -/
  | functionName
  deriving DecidableEq, Repr

/-- What is being read. -/
inductive Mode where
  | code (before : Before)
  | template
  /-- The start tag of an element, behind its name. -/
  | tag (name : List Char)
  | children
  deriving DecidableEq, Repr

/-- Where a reader stands: what is open, the innermost first, and what is being read. -/
structure State where
  opened : List Context := []
  mode : Mode := .code .operator
  deriving DecidableEq, Repr

/-- A step: the state behind it, and how many characters it takes beyond the first. -/
abbrev Step := Option (State × Nat)

/-! ### Lexemes -/

def beginsName (c : Char) : Bool :=
  Name.isIdentifierStart c || 128 ≤ c.toNat && Text.isWord c && !Text.isDecimalDigit c

def inName (c : Char) : Bool :=
  Text.isWord c || c == '$'

/-- Whether a character may stand in the name of an element or an attribute. -/
def inElementName (c : Char) : Bool :=
  inName c || c == '-' || c == ':' || c == '.'

/-- The length of a string literal behind its first quote. -/
def stringLength (quote : Char) (escaped : Bool) : List Char → Option Nat
  | [] => none
  | c :: rest =>
    if escaped then (stringLength quote false rest).map (· + 1)
    else if c = quote then some 1
    else if c = '\n' then none
    else (stringLength quote (c == '\\') rest).map (· + 1)

/-- The length of a regular expression behind its first slash. -/
def patternLength (inClass escaped : Bool) : List Char → Option Nat
  | [] => none
  | c :: rest =>
    if c = '\n' then none
    else if escaped then (patternLength inClass false rest).map (· + 1)
    else if c = '/' ∧ ¬ inClass then some 1
    else (patternLength (c == '[' || inClass && c != ']') (c == '\\') rest).map (· + 1)

/-- The length of a comment behind its `/*`, end included. -/
def commentLength : List Char → Option Nat
  | [] => none
  | '*' :: '/' :: _ => some 2
  | _ :: rest => (commentLength rest).map (· + 1)

/-- Whether digits are a number: decimal, or of another base behind a zero and a letter. -/
def isNumeric (lexeme : List Char) : Bool :=
  match lexeme with
  | '0' :: 'x' :: digits | '0' :: 'X' :: digits =>
    !digits.isEmpty && digits.all fun c => c.isDigit || 'a' ≤ c.toLower && c.toLower ≤ 'f'
  | '0' :: 'b' :: digits | '0' :: 'o' :: digits => !digits.isEmpty && digits.all Char.isDigit
  | _ =>
    match lexeme.dropWhile fun c => c.isDigit || c == '.' || c == '_' with
    | [] | ['n'] => true
    | e :: digits => e.toLower == 'e' && digits.all Char.isDigit

/-- Words that a value follows. -/
def operatorWords : List String :=
  ["async", "await", "case", "class", "const", "default", "delete", "do", "else", "export",
    "extends", "finally", "get", "import", "let", "new", "return", "set", "static", "throw",
    "try", "typeof", "var", "void", "yield"]

/-- Words that stand between two values. -/
def infixWords : List String :=
  ["as", "from", "in", "instanceof", "of"]

/-- Words that a statement in parentheses follows. -/
def headWords : List String :=
  ["catch", "for", "if", "switch", "while", "with"]

/-! ### Steps -/

def afterElement (opened : List Context) : State :=
  match opened with
  | .element _ :: _ => ⟨opened, .children⟩
  | _ => ⟨opened, .code .element⟩

/-- Begins an element behind its `<`. -/
def openElement (opened : List Context) (rest : List Char) : Step :=
  match rest with
  | '>' :: _ => some (⟨.element [] :: opened, .children⟩, 1)
  | c :: _ =>
    if beginsName c then
      some (⟨opened, .tag (rest.takeWhile inElementName)⟩,
        (rest.takeWhile inElementName).length)
    else
      none
  | [] => none

/-- Ends an element behind its `</`. -/
def closeElement (opened : List Context) (rest : List Char) : Step :=
  let blanks := rest.takeWhile Text.isBlank
  let behind := rest.drop blanks.length
  let name := behind.takeWhile inElementName
  let after := (behind.drop name.length).takeWhile Text.isBlank
  match behind.drop (name.length + after.length), opened with
  | '>' :: _, .element expected :: opened =>
    if name = expected then
      some (afterElement opened, 1 + blanks.length + name.length + after.length + 1)
    else
      none
  | _, _ => none

def closeBrace (opened : List Context) : Step :=
  match opened with
  | .curly :: opened => some (⟨opened, .code .ended⟩, 0)
  | .template :: opened => some (⟨opened, .template⟩, 0)
  | .inTag name :: opened => some (⟨opened, .tag name⟩, 0)
  | .inChildren :: opened => some (⟨opened, .children⟩, 0)
  | _ => none

def closeBracket (opened : List Context) (c : Char) : Step :=
  match opened with
  | .round head :: opened =>
    if c = ')' then some (⟨opened, .code (if head then .operator else .value)⟩, 0) else none
  | .square :: opened => if c = ']' then some (⟨opened, .code .value⟩, 0) else none
  | _ => none

/-- Whether a value may not stand here. -/
def Before.isFull : Before → Bool
  | value | element | functionName => true
  | operator | ended | point | headWord | functionWord => false

/-- Whether what follows continues a value. -/
def Before.isValue : Before → Bool
  | value | ended | element | point | functionName => true
  | operator | headWord | functionWord => false

/-- What stands behind a word. -/
def afterWord (before : Before) (word : String) : Option Before :=
  match before with
  | .point => some .value
  | .functionWord =>
    if Image.reservedWords.contains word then none else some .functionName
  | _ =>
    if before.isValue && infixWords.contains word then some .operator
    else if before.isFull then none
    else if word = "function" then some .functionWord
    else if headWords.contains word then some .headWord
    else if operatorWords.contains word then some .operator
    else some .value

/-- A slash in code: a comment, a division or a regular expression. -/
def slashStep (opened : List Context) (before : Before) (rest : List Char) : Step :=
  match rest with
  | '/' :: _ => some (⟨opened, .code before⟩, (rest.takeWhile (· != '\n')).length)
  | '*' :: behind =>
    (commentLength behind).map fun length => (⟨opened, .code before⟩, length + 1)
  | _ =>
    if before.isValue then some (⟨opened, .code .operator⟩, 0)
    else (patternLength false false rest).map fun length => (⟨opened, .code .value⟩, length)

/-- A character of code other than blanks, where a function is not waiting for its parenthesis. -/
def codeStep (opened : List Context) (before : Before) (c : Char) (rest : List Char) : Step :=
  if c = '(' then some (⟨.round (before == .headWord) :: opened, .code .operator⟩, 0)
  else if c = '[' then some (⟨.square :: opened, .code .operator⟩, 0)
  else if c = '\x7b' then some (⟨.curly :: opened, .code .operator⟩, 0)
  else if c = '\x7d' then closeBrace opened
  else if c = ')' ∨ c = ']' then closeBracket opened c
  else if c = '/' then slashStep opened before rest
  else if c = '"' ∨ c = '\'' then
    if before.isFull then none
    else (stringLength c false rest).map fun length => (⟨opened, .code .value⟩, length)
  else if c.toNat = 0x60 then some (⟨opened, .template⟩, 0)
  else if beginsName c then
    let word := c :: rest.takeWhile inName
    (afterWord before (.ofList word)).map fun before =>
      (⟨opened, .code before⟩, word.length - 1)
  else if c.isDigit then
    let lexeme := c :: rest.takeWhile fun d => inName d || d == '.'
    if before.isFull ∨ ¬ isNumeric lexeme then none
    else some (⟨opened, .code .value⟩, lexeme.length - 1)
  else if c = '<' then
    if before = .element then none
    else if before.isValue then some (⟨opened, .code .operator⟩, 0)
    else openElement opened rest
  else if c = '.' then some (⟨opened, .code .point⟩, 0)
  else if c = '#' ∨ c = '@' ∨ c = '\\' then none
  else some (⟨opened, .code .operator⟩, 0)

/-- What stands before the code behind a blank. -/
def afterBlank (before : Before) (c : Char) : Before :=
  if before = .value ∧ c = '\n' then .ended else before

/-- Whether a character may follow the word `function` or the name behind it. -/
def continuesFunction (before : Before) (c : Char) : Bool :=
  match before with
  | .functionWord => c == '(' || beginsName c
  | .functionName => c == '('
  | _ => true

/-- A character of a template. -/
def templateStep (opened : List Context) (c : Char) (rest : List Char) : Step :=
  if c = '\\' then some (⟨opened, .template⟩, 1)
  else if c.toNat = 0x60 then some (⟨opened, .code .value⟩, 0)
  else if c = '$' ∧ rest.head? = some '\x7b' then
    some (⟨.template :: opened, .code .operator⟩, 1)
  else some (⟨opened, .template⟩, 0)

/-- An attribute of an element: its name, of which `taken` characters are read beyond the first, and
its value. -/
def attributeStep (opened : List Context) (name : List Char) (rest : List Char) : Step :=
  let taken := (rest.takeWhile inElementName).length
  let blanks := ((rest.drop taken).takeWhile Text.isBlank).length
  match rest.drop (taken + blanks) with
  | '=' :: behind =>
    let blanks' := (behind.takeWhile Text.isBlank).length
    let start := taken + blanks + 1 + blanks'
    match behind.drop blanks' with
    | '\x7b' :: _ => some (⟨.inTag name :: opened, .code .operator⟩, start + 1)
    | quote :: value =>
      if (quote = '"' ∨ quote = '\'') ∧ value.contains quote then
        some (⟨opened, .tag name⟩, start + 1 + (value.takeWhile (· != quote)).length + 1)
      else
        none
    | [] => none
  | _ => some (⟨opened, .tag name⟩, taken)

/-- A character of a start tag behind the name. -/
def tagStep (opened : List Context) (name : List Char) (c : Char) (rest : List Char) : Step :=
  if Text.isBlank c then some (⟨opened, .tag name⟩, 0)
  else if c = '>' then some (⟨.element name :: opened, .children⟩, 0)
  else if c = '/' ∧ rest.head? = some '>' then some (afterElement opened, 1)
  else if c = '\x7b' then some (⟨.inTag name :: opened, .code .operator⟩, 0)
  else if beginsName c then attributeStep opened name rest
  else none

/-- A character among the children of an element. -/
def childrenStep (opened : List Context) (c : Char) (rest : List Char) : Step :=
  if c = '\x7b' then some (⟨.inChildren :: opened, .code .operator⟩, 0)
  else if c = '\x7d' ∨ c = '>' then none
  else if c = '<' then
    match rest with
    | '/' :: behind => closeElement opened behind
    | _ => openElement opened rest
  else some (⟨opened, .children⟩, 0)

/-- What a character does, with what follows it in sight. -/
def State.step (state : State) (c : Char) (rest : List Char) : Step :=
  match state.mode with
  | .code before =>
    if Text.isBlank c then some (⟨state.opened, .code (afterBlank before c)⟩, 0)
    else if continuesFunction before c then codeStep state.opened before c rest
    else none
  | .template => templateStep state.opened c rest
  | .tag name => tagStep state.opened name c rest
  | .children => childrenStep state.opened c rest

/-- Whether a module may end here. -/
def State.isComplete (state : State) : Bool :=
  match state.opened, state.mode with
  | [], .code _ => true
  | _, _ => false

/-- Whether a reader gets through a text and may end there. -/
def State.accepts (state : State) : List Char → Bool
  | [] => state.isComplete
  | c :: rest =>
    match state.step c rest with
    | none => false
    | some (state, taken) => state.accepts (rest.drop taken)
termination_by text => text.length
decreasing_by
  simp only [List.length_drop, List.length_cons]
  omega

/-- Whether a text is a well-formed module. -/
def acceptsModule (source : String) : Bool :=
  State.accepts {} source.toList

end JsxPages.Jsx.Check
