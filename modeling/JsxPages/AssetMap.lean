import JsxPages.Json.Reader
/-!
# Sanitized file names

An asset map gives the file name under which a referenced asset is stored. It is written as a JSON
object of strings. A reference is looked up as written, then without a slash in front.
-/

namespace JsxPages

/-- References and the file names they are stored under, each reference once. -/
structure AssetMap where
  entries : List (String × String) := []
  deriving DecidableEq, Repr

namespace AssetMap

def insert (assets : AssetMap) (reference filename : String) : AssetMap :=
  { entries := (reference, filename) :: assets.entries.filter (·.1 != reference) }

/-- The map of the given entries, of which the last counts for each reference. -/
def ofList (entries : List (String × String)) : AssetMap :=
  entries.foldl (fun assets entry => assets.insert entry.1 entry.2) {}

def size (assets : AssetMap) : Nat :=
  assets.entries.length

/-- The file name stored for exactly this reference. -/
def find? (assets : AssetMap) (reference : String) : Option String :=
  assets.entries.lookup reference

/-- The file name of a reference, with or without a slash in front. -/
def resolve? (assets : AssetMap) (reference : String) : Option String :=
  (assets.find? reference).or
    (match reference.toList with
    | '/' :: rest => assets.find? (String.ofList rest)
    | _ => none)

def stringFields? : List (String × Json.Value) → Option (List (String × String))
  | [] => some []
  | (name, .string value) :: rest => (stringFields? rest).map ((name, value) :: ·)
  | _ => none

def ofJson? (text : String) : Option AssetMap :=
  match Json.Value.ofText? text with
  | some (.object fields) => (stringFields? fields).map ofList
  | _ => none

end AssetMap

end JsxPages
