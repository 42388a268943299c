/-!
# Where an expression in braces ends

Braces are counted outside string literals, in which a backslash takes the next character with it.
An expression ends at the brace that closes its first one.
-/

namespace JsxPages.Jsx

/-- Where in a piece of code a reader stands. -/
structure CodeScan where
  /-- How many braces are open. -/
  depth : Nat := 0
  /-- The quote of the string literal that is open. -/
  quote : Option Char := none
  /-- Whether the character before was a backslash that takes the next one with it. -/
  escaped : Bool := false
  deriving DecidableEq, Repr

namespace CodeScan

/-- Where a reader stands behind a character. -/
def next (scan : CodeScan) (c : Char) : CodeScan :=
  match scan.quote with
  | some quote =>
    if scan.escaped then { scan with escaped := false }
    else if c = '\\' then { scan with escaped := true }
    else if c = quote then { scan with quote := none }
    else scan
  | none =>
    if c = '"' ∨ c = '\'' ∨ c.toNat = 0x60 then { scan with quote := some c }
    else if c = '\x7b' then { scan with depth := scan.depth + 1 }
    else if c = '\x7d' then { scan with depth := scan.depth - 1 }
    else scan

/-- Whether a character here closes a brace. -/
def closesAt (scan : CodeScan) (c : Char) : Bool :=
  scan.quote.isNone && c == '\x7d'

/-- How many characters there are up to the brace that closes the last open one. -/
def lengthToClose (scan : CodeScan) : List Char → Option Nat
  | [] => none
  | c :: rest =>
    if scan.closesAt c ∧ scan.depth ≤ 1 then
      if scan.depth = 1 then some 1 else none
    else
      ((scan.next c).lengthToClose rest).map (· + 1)

end CodeScan

/-- The length of the expression in braces that a text begins with. -/
def expressionLength (text : List Char) : Option Nat :=
  CodeScan.lengthToClose {} text

end JsxPages.Jsx
