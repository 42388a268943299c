import JsxPages.Text.Split
/-!
# Sets of characters, white space among them

A property of characters is a list of ranges of code points, ends included. Blank characters are
those of the Unicode property White_Space, which the zero-width space and the byte order mark do not
have. `trim` takes them from both ends, `words` cuts a text at them.
-/

namespace JsxPages.Text

/-! ### Ranges -/

abbrev Ranges := List (Nat × Nat)

def Ranges.contains (ranges : Ranges) (c : Char) : Bool :=
  ranges.any fun (first, last) => first ≤ c.toNat && c.toNat ≤ last

/-! ### White space -/

/-- Code points with the property White_Space. -/
def blankRanges : Ranges :=
  [(0x9, 0xD), (0x20, 0x20), (0x85, 0x85), (0xA0, 0xA0), (0x1680, 0x1680), (0x2000, 0x200A),
    (0x2028, 0x2029), (0x202F, 0x202F), (0x205F, 0x205F), (0x3000, 0x3000)]

def isBlank (c : Char) : Bool :=
  blankRanges.contains c

def trim (text : String) : String :=
  String.ofList (trimWhere isBlank text.toList)

def trimEnd (text : String) : String :=
  String.ofList (trimEndWhere isBlank text.toList)

/-- The runs of characters between white space. -/
def words (text : String) : List String :=
  (wordsWhere isBlank text.toList).map String.ofList

/-- Whether a text holds nothing but white space. -/
def isAllBlank (text : String) : Bool :=
  text.toList.all isBlank

end JsxPages.Text
