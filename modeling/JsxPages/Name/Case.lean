import JsxPages.Text.Basic
import JsxPages.Text.Upper
/-!
# Forms of names

`camelCase` joins the parts of a name between hyphens, colons and underscores, each part but the
first with a capital. `namespaced` does so with the two sides of a colon; a name with an empty side
has no such spelling.

`fresh` gives a name that is taken the least number from two on that makes a new one of it.
-/

namespace JsxPages.Name

/-! ### Camel case -/

/-- Whether a character separates the parts of a name. -/
def isSeparator (c : Char) : Bool :=
  c == '-' || c == ':' || c == '_'

/-- The camel case of what follows a first part; `capital` holds behind a separator. -/
def camelTail (capital : Bool) : List Char → List Char
  | [] => []
  | c :: rest =>
    if isSeparator c then camelTail true rest
    else (if capital then c.toUpper else c) :: camelTail false rest

/-- The parts of a name joined, with capitals where they meet. -/
def camelCase (name : String) : String :=
  String.ofList (camelTail false (name.toList.dropWhile isSeparator))

/-- A name with a colon as one word, empty if nothing stands on one side of the colon. -/
def namespaced (name : String) : String :=
  match Text.cutFirst ':' name.toList with
  | none => name
  | some (space, rest) =>
    if space.isEmpty ∨ rest.isEmpty then ""
    else Text.lower (String.ofList space) ++ Text.capitalize (camelCase (String.ofList rest))

/-! ### Numbered names -/

/-- A name and its numbered forms, one more than there are taken names. -/
def candidates (base : String) (taken : List String) : List String :=
  base :: (List.range taken.length).map fun n => base ++ Nat.repr (n + 2)

/-- The first form of a name that is not taken. -/
def fresh (base : String) (taken : List String) : String :=
  ((candidates base taken).find? fun name => !taken.contains name).getD base

end JsxPages.Name
