import JsxPages.Html.Character
import JsxPages.Html.Token
/-!
# Content that is not markup

The content of a raw element runs up to its own end tag, in any letter case, and holds no other
markup. In a script a comment may hold a nested `<script>` with its end tag, so there the end is
looked for by a mode: inside a comment such a pair is skipped.
-/

namespace JsxPages.Html

/-- Where in the content of a raw element a reader stands. -/
inductive RawMode where
  /-- Content in which every end tag counts. -/
  | plain
  /-- A script outside comments. -/
  | script
  /-- A script inside a comment, after a number of dashes. -/
  | comment (dashes : Nat)
  /-- A script inside a script inside a comment, after a number of dashes. -/
  | nested (dashes : Nat)

def RawMode.start : RawKind → RawMode
  | .script => .script
  | .verbatim | .decoded => .plain

/-- Whether a name in any letter case, followed by what ends a tag name, begins a text. -/
def beginsWithName (name text : List Char) : Bool :=
  (text.take name.length).map Char.toLower == name &&
    (text.drop name.length).head?.any fun c => isSpace c || c == '/' || c == '>'

/-- Whether the end tag of an element begins a text. -/
def beginsWithEndTag (name : List Char) : List Char → Bool
  | '<' :: '/' :: rest => beginsWithName name rest
  | _ => false

/-- The mode behind a character, which may depend on what follows it. -/
def RawMode.next (c : Char) (rest : List Char) : RawMode → RawMode
  | plain => plain
  | script => if c = '<' ∧ "!--".toList.isPrefixOf rest then comment 0 else script
  | comment dashes =>
    if c = '-' then comment (dashes + 1)
    else if c = '>' ∧ 2 ≤ dashes then script
    else if c = '<' ∧ beginsWithName "script".toList rest then nested 0
    else comment 0
  | nested dashes =>
    if c = '-' then nested (dashes + 1)
    else if c = '>' ∧ 2 ≤ dashes then script
    else if beginsWithEndTag "script".toList (c :: rest) then comment 0
    else nested 0

/-- Whether an end tag counts in this mode. -/
def RawMode.closes : RawMode → Bool
  | nested _ => false
  | _ => true

/-- The content of a raw element and what follows it, which is its end tag or nothing. -/
def scanRaw (name : List Char) : RawMode → List Char → List Char × List Char
  | _, [] => ([], [])
  | mode, c :: rest =>
    if mode.closes && beginsWithEndTag name (c :: rest) then
      ([], c :: rest)
    else
      let (content, after) := scanRaw name (mode.next c rest) rest
      (c :: content, after)

theorem length_scanRaw_le (name : List Char) (mode : RawMode) (text : List Char) :
    (scanRaw name mode text).2.length ≤ text.length := by
  fun_induction scanRaw name mode text with
  | case1 => simp
  | case2 => simp
  | case3 _ _ _ _ _ _ scanned ih =>
    rw [scanned] at ih
    exact Nat.le_succ_of_le ih

end JsxPages.Html
