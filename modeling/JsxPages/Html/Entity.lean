import JsxPages.Html.Entity.Names
/-!
# Looking up named characters

The names are held in a tree by their letters, semicolon included, so that a text can be read letter
by letter for as long as some name continues that way. `NameTree.longest` does so and reports both
the longest name it passed and how far it had to look to be sure of it.
-/

namespace JsxPages.Html.Entity

/-- Names by their letters, each with the characters it stands for. -/
inductive NameTree where
  | node (chars : Option (List Char)) (branches : List (Char × NameTree))

def NameTree.empty : NameTree :=
  .node none []

/-- The characters of the name that ends here. -/
def NameTree.chars : NameTree → Option (List Char)
  | .node chars _ => chars

def NameTree.branch (c : Char) : NameTree → Option NameTree
  | .node _ branches => branches.lookup c

def NameTree.insert (chars : List Char) : List Char → NameTree → NameTree
  | [], .node _ branches => .node (some chars) branches
  | c :: rest, .node here branches =>
    .node here
      ((c, insert chars rest ((branches.lookup c).getD .empty)) ::
        branches.filter fun branch => branch.1 != c)

/-- Every name, with a semicolon and, where it may stand alone, without. -/
def nameTree : NameTree :=
  named.foldl
    (fun tree (name, chars) =>
      let tree := tree.insert chars (name.toList ++ [';'])
      if bareNames.contains name then tree.insert chars name.toList else tree)
    .empty

/-- The longest name at the front of a text. -/
structure Longest where
  /-- How many characters were looked at, the one that no name continues with included. -/
  looked : Nat
  /-- The length of the longest name and what it stands for. -/
  found : Option (Nat × List Char)

/-- Follows the names for as long as one continues, from a point `looked` characters into the
text. -/
def NameTree.longestFrom (looked : Nat) (found : Option (Nat × List Char)) (tree : NameTree) :
    List Char → Longest
  | [] => ⟨looked, found⟩
  | c :: rest =>
    match tree.branch c with
    | none => ⟨looked + 1, found⟩
    | some next =>
      next.longestFrom (looked + 1) ((next.chars.map (looked + 1, ·)).or found) rest

/-- The longest name at the front of a text. -/
def NameTree.longest (tree : NameTree) (text : List Char) : Longest :=
  tree.longestFrom 0 none text

end JsxPages.Html.Entity
