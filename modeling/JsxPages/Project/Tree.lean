import JsxPages.Project.Disk
import JsxPages.Text.Split
/-!
# A tree of files in memory

Every file and every directory has its place, the names on the way to it from the root, which itself
is a directory. A path that begins with a slash leads from the root, any other one from the working
directory. `Tree.disk` gives the commands access to such a tree.
-/

namespace JsxPages.Project

/-- What stands at a place. -/
inductive Node where
  | directory
  | text (content : String)
  /-- A file that is no text. -/
  | binary (bytes : List UInt8)
  deriving DecidableEq, Repr

/-- The names on the way from the root. -/
abbrev Place := List String

/-- Files and directories by their places, and the directory that relative paths lead from. -/
structure Tree where
  nodes : List (Place × Node) := []
  workingDir : Place := []
  deriving DecidableEq, Repr

/-- The names between the slashes of a path, empty ones included. -/
def segments (path : String) : List String :=
  (Text.splitWhere (· == '/') path.toList).map String.ofList

/-- Where the names of a path lead from. -/
def startOf (workingDir : Place) (path : String) : Place :=
  if path.toList.head? = some '/' then [] else workingDir

namespace Tree

/-- What stands at a place. -/
def find? (tree : Tree) (place : Place) : Option Node :=
  if place = [] then some .directory else tree.nodes.lookup place

def setNode (place : Place) (node : Node) : List (Place × Node) → List (Place × Node)
  | [] => [(place, node)]
  | entry :: rest =>
    if entry.1 = place then (place, node) :: rest else entry :: setNode place node rest

def set (tree : Tree) (place : Place) (node : Node) : Tree :=
  { tree with nodes := setNode place node tree.nodes }

def hasDir (tree : Tree) (place : Place) : Bool :=
  tree.find? place == some .directory

/-- Follows names from a place, each of which leads through a directory. -/
def follow (tree : Tree) (place : Place) : List String → Except ReadFault Place
  | [] => .ok place
  | name :: rest =>
    if tree.hasDir place then
      if name = "" ∨ name = "." then tree.follow place rest
      else if name = ".." then tree.follow place.dropLast rest
      else tree.follow (place ++ [name]) rest
    else
      .error (if (tree.find? place).isSome then .notDirectory else .missing)

/-- The place that a path leads to. -/
def locate (tree : Tree) (path : String) : Except ReadFault Place :=
  if path.isEmpty then .error .missing
  else tree.follow (startOf tree.workingDir path) (segments path)

/-- What a path leads to. -/
def at? (tree : Tree) (path : String) : Option Node :=
  match tree.locate path with
  | .ok place => tree.find? place
  | .error _ => none

def read (tree : Tree) (path : String) : Except ReadFault String :=
  match tree.locate path with
  | .error fault => .error fault
  | .ok place =>
    match tree.find? place with
    | none => .error .missing
    | some .directory => .error .isDirectory
    | some (.text content) => .ok content
    | some (.binary _) => .error .notText

/-- Writes a text to a file in a directory that exists. -/
def write (tree : Tree) (path text : String) : Option Tree :=
  match tree.locate path with
  | .error _ => none
  | .ok place => if tree.hasDir place then none else some (tree.set place (.text text))

/-- The places on the way from a place along some names, the last included. -/
def waypoints (place : Place) : List String → List Place
  | [] => []
  | name :: rest =>
    if name = "" ∨ name = "." then waypoints place rest
    else if name = ".." then waypoints place.dropLast rest
    else (place ++ [name]) :: waypoints (place ++ [name]) rest

/-- Creates a directory and those around it. -/
def createDirs (tree : Tree) (path : String) : Option Tree :=
  let start := startOf tree.workingDir path
  let places := waypoints start (segments path)
  let clear := places.all fun place => (tree.find? place).isNone || tree.hasDir place
  if tree.hasDir start && clear then
    some (places.foldl (fun tree place => tree.set place .directory) tree)
  else
    none

/-- The names from a place on to another below it. -/
def below? (base place : Place) : Option Place :=
  base.isPrefixOf? place

def filesBelow (tree : Tree) (path : String) : List Place :=
  match tree.locate path with
  | .error _ => []
  | .ok base =>
    tree.nodes.filterMap fun (place, node) =>
      if node = .directory then none else below? base place

/-- Replaces the tree if there is a new one, and says whether there is. -/
def replace (next : Tree → Option Tree) : StateM Tree Bool := fun tree =>
  match next tree with
  | some tree => (true, tree)
  | none => (false, tree)

def disk : Disk (StateM Tree) where
  read path := fun tree => (tree.read path, tree)
  write path text := replace (·.write path text)
  createDirs path := replace (·.createDirs path)
  isThere path := fun tree => ((tree.at? path).isSome, tree)
  isDir path := fun tree => (tree.at? path == some .directory, tree)
  filesBelow path := fun tree => (tree.filesBelow path, tree)

end Tree

end JsxPages.Project
