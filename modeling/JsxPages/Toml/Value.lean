/-!
# TOML values

A document is a table. While it is read, each table keeps how it was defined, since that decides
what may still be added to it: `Item.table`. Values, inline tables among them, are complete.
-/

namespace JsxPages.Toml

inductive Value where
  | string (value : String)
  | integer (value : Int)
  | boolean (value : Bool)
  /-- A floating point number as written. -/
  | real (text : String)
  | array (items : List Value)
  | table (entries : List (String × Value))

/-- How a table was defined. -/
inductive Origin where
  /-- By the header of a table inside it. -/
  | implicit
  /-- By its own header. -/
  | header
  /-- By a dotted key. -/
  | dotted
  deriving DecidableEq, Repr

/-- An entry of a table that is being read. -/
inductive Item where
  | value (value : Value)
  | table (origin : Origin) (entries : List (String × Item))
  /-- An array of tables: those before the last, and the last, to which entries may be added. -/
  | tables (before : List Item) (last : List (String × Item))

/-- Entries of a table that is being read. -/
abbrev Entries := List (String × Item)

def setEntry {α : Type} (key : String) (item : α) : List (String × α) → List (String × α)
  | [] => [(key, item)]
  | entry :: rest =>
    if entry.1 = key then (key, item) :: rest else entry :: setEntry key item rest

/-- Adds an entry that is not there yet. -/
def addEntry {α : Type} (key : String) (item : α) (entries : List (String × α)) :
    Option (List (String × α)) :=
  if (entries.lookup key).isSome then none else some (setEntry key item entries)

/-- Changes the table that a path of keys leads to, with the tables on the way defined as needed.
A dotted key does not lead through a table that has a header, and the table it ends in is one that
dotted keys define. -/
def changeAt (dotted : Bool) (change : Entries → Option Entries) :
    List String → Entries → Option Entries
  | [], entries => change entries
  | key :: path, entries =>
    match entries.lookup key with
    | none => do
      let inner ← changeAt dotted change path []
      return setEntry key (.table (if dotted then .dotted else .implicit) inner) entries
    | some (.table origin inner) =>
      if dotted ∧ (origin = .header ∨ origin = .implicit ∧ path = []) then
        none
      else do
        return setEntry key (.table origin (← changeAt dotted change path inner)) entries
    | some (.tables before last) =>
      if dotted ∧ path = [] then
        none
      else do
        return setEntry key (.tables before (← changeAt dotted change path last)) entries
    | some (.value _) => none

def addValue (value : Value) (path : List String) (key : String) (entries : Entries) :
    Option Entries :=
  changeAt true (addEntry key (.value value)) path entries

def beginTable (key : String) (entries : Entries) : Option Entries :=
  match entries.lookup key with
  | none => some (setEntry key (.table .header []) entries)
  | some (.table .implicit inner) => some (setEntry key (.table .header inner) entries)
  | some _ => none

/-- Begins the next table of an array of tables. -/
def beginTables (key : String) (entries : Entries) : Option Entries :=
  match entries.lookup key with
  | none => some (setEntry key (.tables [] []) entries)
  | some (.tables before last) =>
    some (setEntry key (.tables (before ++ [.table .header last]) []) entries)
  | some _ => none

mutual

def Item.toValue : Item → Value
  | .value value => value
  | .table _ entries => .table (entryValues entries)
  | .tables before last => .array (itemValues before ++ [.table (entryValues last)])

/-- The entries of a complete table as values. -/
def entryValues : List (String × Item) → List (String × Value)
  | [] => []
  | (key, item) :: rest => (key, item.toValue) :: entryValues rest

def itemValues : List Item → List Value
  | [] => []
  | item :: rest => item.toValue :: itemValues rest

end

end JsxPages.Toml
