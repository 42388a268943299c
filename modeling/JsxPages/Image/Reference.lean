import JsxPages.AssetMap
import JsxPages.Image.Imports
import JsxPages.Text.Blank
/-!
# References to images

What the address in a `src` becomes. Absolute addresses stay as they are. Any other names a file:
the one the asset map gives, or else the one under which the reference would be stored, which is
guessed from its path. An image file is imported, and another file that the asset map gives is
referred to by its path.
-/

namespace JsxPages.Image

/-- What a reference resolves to. -/
inductive Reference where
  /-- The identifier of an import. -/
  | imported (identifier : String)
  /-- The path of a file that is no image. -/
  | path (path : String)
  | unchanged
  deriving DecidableEq, Repr

def extensions : List String :=
  ["svg", "png", "jpg", "jpeg", "gif", "webp", "avif"]

/-- Whether a file is an image, by its extension in any letter case. -/
def isImage (filename : String) : Bool :=
  match Text.cutLast '.' filename.toList with
  | some (_, extension) => extensions.contains (Text.lower (String.ofList extension))
  | none => false

def absoluteStarts : List String :=
  ["data:", "http://", "https://", "//"]

def isAbsolute (address : String) : Bool :=
  absoluteStarts.any fun start => start.toList.isPrefixOf (Text.lower address).toList

/-- An address without its query and fragment. -/
def pathOf (address : String) : List Char :=
  address.toList.takeWhile fun c => c != '?' && c != '#'

/-- The directories whose files keep the path below them. -/
def flatDirs (imagesDir : String) : List (List Char) :=
  let images := (Text.trimChar '/' imagesDir).toList
  (if images.isEmpty then [] else [images ++ ['/']]) ++ ["fonts-flat/".toList]

/-- The path below a flat directory. -/
def belowFlatDir? (imagesDir : String) (path : List Char) : Option (List Char) :=
  (flatDirs imagesDir).findSome? (Text.afterFirst · path)

/-- The file name a path was stored under, as far as it can be told from the path. -/
def storedName (imagesDir : String) (path : List Char) : String :=
  Text.trim (String.ofList
    (if path.head? = some '/' then Text.afterLast '/' path
    else (belowFlatDir? imagesDir path).getD (Text.afterLast '/' path)))

/-- The file name guessed for an address. -/
def guess? (imagesDir address : String) : Option String :=
  let name := storedName imagesDir (pathOf address)
  if name.isEmpty ∨ name = "." ∨ name = ".." then none else some name

/-- Refers to a file, which is imported if it is an image. -/
def refer (imports : Imports) (filename : String) (otherwise : Reference) : Reference × Imports :=
  if isImage filename then
    let (identifier, imports) := imports.register filename
    (.imported identifier, imports)
  else
    (otherwise, imports)

/-- Resolves an address, registering the import it needs. -/
def resolve (assets : AssetMap) (imagesDir : String) (imports : Imports) (value : String) :
    Reference × Imports :=
  let address := Text.trim value
  if isAbsolute address then
    (.unchanged, imports)
  else
    match assets.resolve? address with
    | some filename => refer imports filename (.path ("./" ++ filename))
    | none =>
      match guess? imagesDir address with
      | some filename => refer imports filename .unchanged
      | none => (.unchanged, imports)

end JsxPages.Image
