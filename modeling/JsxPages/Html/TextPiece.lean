import JsxPages.Html.Reference
/-!
# Pieces of text

Text between two pieces of markup comes as a list of pieces. Line feeds, `<`, `&` and the characters
of a reference are pieces of their own, as is the character that follows a CR or a `<`; all other
text comes in the longest runs. NUL leaves nothing and ends a run. Text that the reading of a
reference looked at and put back is a stretch of its own: no run goes on past its end, the seam.
-/

namespace JsxPages.Html

def inRun (c : Char) : Bool :=
  c != '\r' && c != '\n' && c != '\x00' && c != '&' && c != '<'

/-- How many characters of `rest` continue a run, where the seam is `seam` characters away and no
seam is ahead if that is zero. -/
def runLength (seam : Nat) (rest : List Char) : Nat :=
  ((if seam = 0 then rest else rest.take (seam - 1)).takeWhile inRun).length

/-- The pieces of a text. The first character is a piece of its own if `alone` holds. -/
def piecesFrom (alone : Bool) (seam : Nat) : List Char → List (List Char)
  | [] => []
  | '\r' :: '\n' :: rest => ['\n'] :: piecesFrom true (seam - 2) rest
  | '\r' :: rest => ['\n'] :: piecesFrom true (seam - 1) rest
  | '\n' :: rest => ['\n'] :: piecesFrom false (seam - 1) rest
  | '\x00' :: rest => piecesFrom false (seam - 1) rest
  | '<' :: rest => ['<'] :: piecesFrom true (seam - 1) rest
  | '&' :: rest =>
    have : (Reference.read false rest).rest.length ≤ rest.length :=
      Reference.length_rest_read_le false rest
    (Reference.read false rest).chars.map ([·]) ++
      piecesFrom false (Reference.read false rest).ahead (Reference.read false rest).rest
  | c :: rest =>
    let more := if alone then 0 else runLength seam rest
    (c :: rest.take more) :: piecesFrom false (seam - 1 - more) (rest.drop more)
termination_by text => text.length
decreasing_by
  all_goals simp only [List.length_cons, List.length_drop]
  all_goals omega

/-- The pieces of a text between two pieces of markup. -/
def pieces (text : List Char) : List String :=
  (piecesFrom false 0 text).map String.ofList

end JsxPages.Html
