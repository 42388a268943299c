import JsxPages.Image.Imports
/-!
# What converted markup depends on

The images and the classes that the markup refers to. They are collected while documents are
converted; several documents may share one such collection.

Custom properties of an inline style cannot be part of a style object, so each such style gets a
class of its own, numbered in the order of minting, and its declarations go into a stylesheet.
-/

namespace JsxPages

/-- Classes for custom properties. -/
structure ClassTable where
  /-- Classes with their declarations, in the order of minting. -/
  classes : List (String × List (String × String)) := []
  deriving DecidableEq, Repr

namespace ClassTable

def size (table : ClassTable) : Nat :=
  table.classes.length

def mint (table : ClassTable) (stem : String) (declarations : List (String × String)) :
    String × ClassTable :=
  let name := stem ++ "-" ++ Nat.repr (table.size + 1)
  (name, { classes := table.classes ++ [(name, declarations)] })

def find? (table : ClassTable) (name : String) : Option (List (String × String)) :=
  table.classes.lookup name

/-- A declaration on a line of its own. -/
def declarationText (declaration : String × String) : String :=
  "  " ++ declaration.1 ++ ": " ++ declaration.2 ++ ";\n"

def ruleText (rule : String × List (String × String)) : String :=
  "." ++ rule.1 ++ " \x7b\n" ++ String.join (rule.2.map declarationText) ++ "\x7d\n"

def stylesheet (table : ClassTable) : String :=
  String.join (table.classes.map ruleText)

end ClassTable

/-- Images and classes that converted markup refers to. -/
structure Tables where
  images : Image.Imports := {}
  classes : ClassTable := {}
  deriving DecidableEq, Repr

end JsxPages
