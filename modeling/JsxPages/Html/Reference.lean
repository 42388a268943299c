import JsxPages.Html.Entity
/-!
# Character references

What `&` begins: a named reference, a numeric one, or nothing but the ampersand itself. Reading one
never gives back more text than it was given, which is what `decode` terminates by. A name is read
for as long as some name continues that way, and a failed one to the end of its letters and digits;
`ahead` counts the characters that were looked at beyond the reference.

In an attribute value a name without semicolon is left alone when `=`, a letter or a digit follows.
-/

namespace JsxPages.Html

/-- The outcome of reading a character reference behind its ampersand. -/
structure Reference where
  /-- The characters it stands for; the ampersand where it is none. -/
  chars : List Char
  rest : List Char
  /-- How many characters of `rest` were looked at. -/
  ahead : Nat

namespace Reference

/-- An ampersand that begins no reference. -/
def ampersand (text : List Char) (ahead : Nat) : Reference :=
  ⟨['&'], text, ahead⟩

/-- What the numbers 0x80 to 0x9F stand for; some stand for themselves. -/
def highControls : List (Nat × Nat) :=
  [(0x80, 0x20AC), (0x82, 0x201A), (0x83, 0x192), (0x84, 0x201E), (0x85, 0x2026), (0x86, 0x2020),
    (0x87, 0x2021), (0x88, 0x2C6), (0x89, 0x2030), (0x8A, 0x160), (0x8B, 0x2039), (0x8C, 0x152),
    (0x8E, 0x17D), (0x91, 0x2018), (0x92, 0x2019), (0x93, 0x201C), (0x94, 0x201D),
    (0x95, 0x2022), (0x96, 0x2013), (0x97, 0x2014), (0x98, 0x2DC), (0x99, 0x2122), (0x9A, 0x161),
    (0x9B, 0x203A), (0x9C, 0x153), (0x9E, 0x17E), (0x9F, 0x178)]

/-- The character a number stands for; U+FFFD for zero and for what is no character. -/
def ofCode (code : Nat) : Char :=
  if code = 0 ∨ ¬ code.isValidChar then
    '\uFFFD'
  else
    Char.ofNat ((highControls.lookup code).getD code)

def digitValue? (base : Nat) (c : Char) : Option Nat :=
  let value :=
    if c.isDigit then c.toNat - '0'.toNat
    else if 'a' ≤ c ∧ c ≤ 'f' then c.toNat - 'a'.toNat + 10
    else if 'A' ≤ c ∧ c ≤ 'F' then c.toNat - 'A'.toNat + 10
    else base
  if value < base then some value else none

/-- The number written by digits of the given base. -/
def number (base : Nat) (digits : List Char) : Nat :=
  digits.foldl (fun value c => value * base + (digitValue? base c).getD 0) 0

def dropSemicolon : List Char → List Char
  | ';' :: rest => rest
  | text => text

/-- A reference by number, its digits at the front of `digits`. -/
def numeric (base : Nat) (text digits : List Char) : Reference :=
  let isDigit := fun c => (digitValue? base c).isSome
  if (digits.takeWhile isDigit).isEmpty then
    ampersand text (text.length - digits.length)
  else
    ⟨[ofCode (number base (digits.takeWhile isDigit))], dropSemicolon (digits.dropWhile isDigit), 0⟩

/-- How far a name that no entry continues is looked at: through its letters and digits, to the
character that ends them. -/
def lookedBeyond (text : List Char) (looked : Nat) : Nat :=
  match text.drop (looked - 1) with
  | [] => looked
  | c :: rest =>
    if c.isAlphanum then
      min text.length (looked + (rest.takeWhile Char.isAlphanum).length + 1)
    else
      looked

def byName (inAttribute : Bool) (text : List Char) : Reference :=
  let longest := Entity.nameTree.longest text
  match longest.found with
  | none => ampersand text (lookedBeyond text longest.looked)
  | some (length, chars) =>
    let closed := (text.drop (length - 1)).head? == some ';'
    let continued := (text.drop length).head?.any fun c => c == '=' || c.isAlphanum
    if inAttribute && !closed && continued then
      ampersand text longest.looked
    else
      ⟨chars, text.drop length, longest.looked - length⟩

/-- Reads what stands behind an ampersand. -/
def read (inAttribute : Bool) (text : List Char) : Reference :=
  match text with
  | '#' :: 'x' :: digits | '#' :: 'X' :: digits => numeric 16 text digits
  | '#' :: digits => numeric 10 text digits
  | c :: _ => if c.isAlphanum then byName inAttribute text else ampersand text 0
  | [] => ampersand text 0

theorem length_dropSemicolon_le (text : List Char) :
    (dropSemicolon text).length ≤ text.length := by
  unfold dropSemicolon
  split <;> simp

theorem length_rest_numeric_le (base : Nat) {text digits : List Char}
    (h : digits.length ≤ text.length) : (numeric base text digits).rest.length ≤ text.length := by
  simp only [numeric]
  split
  · simp [ampersand]
  · exact Nat.le_trans (length_dropSemicolon_le _)
      (Nat.le_trans (List.dropWhile_suffix _).length_le h)

theorem length_rest_byName_le (inAttribute : Bool) (text : List Char) :
    (byName inAttribute text).rest.length ≤ text.length := by
  simp only [byName]
  split
  · simp [ampersand]
  · split <;> simp [ampersand]

theorem length_rest_read_le (inAttribute : Bool) (text : List Char) :
    (read inAttribute text).rest.length ≤ text.length := by
  unfold read
  split
  · exact length_rest_numeric_le 16 (by simp; omega)
  · exact length_rest_numeric_le 16 (by simp; omega)
  · exact length_rest_numeric_le 10 (by simp)
  · split
    · exact length_rest_byName_le _ _
    · simp [ampersand]
  · simp [ampersand]

end Reference

/-- A text with its character references read. -/
def decode (inAttribute : Bool) : List Char → List Char
  | [] => []
  | c :: rest =>
    if c = '&' then
      let reference := Reference.read inAttribute rest
      reference.chars ++ decode inAttribute reference.rest
    else
      c :: decode inAttribute rest
termination_by text => text.length
decreasing_by
  · exact Nat.lt_succ_of_le (Reference.length_rest_read_le inAttribute rest)
  · simp

end JsxPages.Html
