/-!
# Cutting text at characters

Everything here works on lists of characters and loses nothing but the separators it is asked to
cut at. `splitWhere` cuts at every separator, `cutFirst` and `cutLast` at one of them, and
`afterFirst` finds what stands behind a marker. The lemmas on lengths are what the scanners of the
other modules terminate by.
-/

namespace JsxPages.Text

def consFirst (c : Char) : List (List Char) → List (List Char)
  | [] => [[c]]
  | part :: parts => (c :: part) :: parts

/-- The parts between the characters that satisfy `p`, empty ones included. -/
def splitWhere (p : Char → Bool) : List Char → List (List Char)
  | [] => [[]]
  | c :: rest => if p c then [] :: splitWhere p rest else consFirst c (splitWhere p rest)

/-- The parts between the characters that satisfy `p`, empty ones left out. -/
def wordsWhere (p : Char → Bool) (text : List Char) : List (List Char) :=
  (splitWhere p text).filter (!·.isEmpty)

/-- What stands before and after the first `c`, if there is one. -/
def cutFirst (c : Char) (text : List Char) : Option (List Char × List Char) :=
  match text.dropWhile (· != c) with
  | [] => none
  | _ :: after => some (text.takeWhile (· != c), after)

/-- What stands before and after the last `c`, if there is one. -/
def cutLast (c : Char) (text : List Char) : Option (List Char × List Char) :=
  (cutFirst c text.reverse).map fun (after, before) => (before.reverse, after.reverse)

/-- What stands after the last `c`; the whole text where there is none. -/
def afterLast (c : Char) (text : List Char) : List Char :=
  (text.reverse.takeWhile (· != c)).reverse

/-- What stands after the first occurrence of `marker`. -/
def afterFirst (marker : List Char) : List Char → Option (List Char)
  | [] => marker.isPrefixOf? []
  | c :: rest => (marker.isPrefixOf? (c :: rest)).or (afterFirst marker rest)

/-- Drops the characters that satisfy `p` from both ends. -/
def trimWhere (p : Char → Bool) (text : List Char) : List Char :=
  ((text.dropWhile p).reverse.dropWhile p).reverse

/-- Drops the characters that satisfy `p` from the end. -/
def trimEndWhere (p : Char → Bool) (text : List Char) : List Char :=
  (text.reverse.dropWhile p).reverse

/-- What stands before `ending`, if the text ends in it. -/
def beforeEnding (ending text : List Char) : Option (List Char) :=
  (ending.reverse.isPrefixOf? text.reverse).map List.reverse

theorem length_dropWhile_le (p : Char → Bool) (text : List Char) :
    (text.dropWhile p).length ≤ text.length :=
  (List.dropWhile_suffix p).length_le

theorem length_of_dropWhile_eq_cons {p : Char → Bool} {text rest : List Char} {c : Char}
    (h : text.dropWhile p = c :: rest) : rest.length < text.length := by
  have bound := length_dropWhile_le p text
  rw [h, List.length_cons] at bound
  omega

end JsxPages.Text
