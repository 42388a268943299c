import JsxPages.Json.Printer
import JsxPages.Json.Reader
import Mathlib.Data.List.DropRight
/-!
# Reading what was printed

A printed string is read back, whatever follows it (`readString_escaped`, `readValue_stringText`).
So is a list of values with a comma and a line end between each two, if each value is read back
whatever follows it (`readItems_intercalate`). The reader takes one unit of its fuel for each item,
so there has to be as much of it as there are items, and what an item takes on top.

Blanks in front of a value, an item or a field do not matter (`readValue_congr`, `readItems_congr`,
`readFields_congr`), so that each may stand on a line of its own.
-/

namespace JsxPages.Json

/-! ### Strings -/

theorem codeUnit?_control : ∀ n < 32,
    codeUnit? '0' '0' (Nat.digitChar (n / 16)) (Nat.digitChar (n % 16)) = some n := by
  decide

theorem readString_escapeChar (c : Char) (rest : List Char) :
    readString (escapeChar c ++ rest) = prepend (some c) (readString rest) := by
  unfold escapeChar
  split
  · rfl
  · rfl
  · rfl
  · rfl
  · rfl
  · rfl
  · rfl
  · rename_i notQuote notBackslash _ _ _ _ _
    split
    · rename_i control
      have noSurrogate : c.toNat < 0xD800 := by omega
      simp only [List.cons_append, List.nil_append]
      rw [readString, codeUnit?_control c.toNat control]
      dsimp only
      rw [if_pos (.inl noSurrogate), Char.ofNat_toNat]
    · rename_i printed
      rw [List.singleton_append, readString, if_neg printed]
      · exact notQuote
      · exact fun _ _ _ _ _ same _ => notBackslash same
      · exact fun _ _ same _ => notBackslash same

theorem readString_escaped (chars rest : List Char) :
    readString (chars.flatMap escapeChar ++ '"' :: rest) = some (chars, rest) := by
  induction chars with
  | nil => rfl
  | cons c chars ih =>
    rw [List.flatMap_cons, List.append_assoc, readString_escapeChar, ih]
    rfl

theorem toList_stringText_append (value : String) (rest : List Char) :
    (stringText value).toList ++ rest =
      '"' :: (value.toList.flatMap escapeChar ++ '"' :: rest) := by
  rw [stringText, String.toList_ofList, List.append_assoc]
  rfl

/-- A printed string is read back. -/
theorem readValue_stringText (fuel depth : Nat) (value : String) (rest : List Char) :
    readValue (fuel + 1) depth ((stringText value).toList ++ rest) = some (.string value, rest) := by
  have quoted (text : List Char) : readValue (fuel + 1) depth ('"' :: text) =
      (readString text).map fun read => (.string (.ofList read.1), read.2) := rfl
  rw [toList_stringText_append, quoted, readString_escaped, Option.map_some, String.ofList_toList]

/-! ### Blanks -/

theorem skipSpace_space (text : List Char) : skipSpace (' ' :: text) = skipSpace text :=
  rfl

theorem skipSpace_lineEnd (text : List Char) : skipSpace ('\n' :: text) = skipSpace text :=
  rfl

theorem skipSpace_quote (text : List Char) : skipSpace ('"' :: text) = '"' :: text :=
  rfl

theorem skipSpace_colon (text : List Char) : skipSpace (':' :: text) = ':' :: text :=
  rfl

theorem skipSpace_skipSpace (text : List Char) : skipSpace (skipSpace text) = skipSpace text :=
  List.dropWhile_idempotent _ _

section
variable {text other : List Char} (same : skipSpace text = skipSpace other) (fuel depth : Nat)
include same

theorem readValue_congr : readValue fuel depth text = readValue fuel depth other := by
  cases fuel with
  | zero => rfl
  | succ fuel => rw [readValue, readValue, same]

theorem readItems_congr : readItems fuel depth text = readItems fuel depth other := by
  cases fuel with
  | zero => rfl
  | succ fuel => rw [readItems, readItems, readValue_congr same]

theorem readFields_congr (fields : List (String × Value)) :
    readFields fuel depth fields text = readFields fuel depth fields other := by
  cases fuel with
  | zero => rfl
  | succ fuel => rw [readFields, readFields, same]

end

/-! ### Arrays and objects -/

/-- Items are read in their brackets. The closing bracket is no item, so the array is not empty. -/
theorem readValue_array {fuel depth : Nat} {text rest : List Char} {items : List Value}
    (read : readItems fuel depth text = some (items, rest)) :
    readValue (fuel + 1) (depth + 1) ('[' :: text) = some (.array items, rest) := by
  have noItem (behind : List Char) : readItems fuel depth (']' :: behind) = none := by
    rcases fuel with _ | _ | fuel <;> rfl
  have bracket : skipSpace ('[' :: text) = '[' :: text := rfl
  rw [← readItems_congr (skipSpace_skipSpace text)] at read
  simp only [readValue, bracket, Nat.succ_ne_zero, if_false, Nat.add_sub_cancel]
  split
  · rename_i same
    rw [same, noItem] at read
    cases read
  · rw [read]
    rfl

/-- Fields are read in their braces. The closing brace is no field, so the object is not empty. -/
theorem readValue_object {fuel depth : Nat} {text rest : List Char} {value : Value}
    (read : readFields fuel depth [] text = some (value, rest)) :
    readValue (fuel + 1) (depth + 1) ('\x7b' :: text) = some (value, rest) := by
  have noField (behind : List Char) : readFields fuel depth [] ('\x7d' :: behind) = none := by
    cases fuel <;> rfl
  have brace : skipSpace ('\x7b' :: text) = '\x7b' :: text := rfl
  rw [← readFields_congr (skipSpace_skipSpace text)] at read
  simp only [readValue, brace, Nat.succ_ne_zero, if_false, Nat.add_sub_cancel]
  split
  · rename_i same
    rw [same, noField] at read
    cases read
  · exact read

section
variable {fuel depth : Nat} {text rest behind : List Char} {item value : Value}

theorem readItems_of_last (read : readValue fuel depth text = some (item, rest))
    (last : skipSpace rest = ']' :: behind) :
    readItems (fuel + 1) depth text = some ([item], behind) := by
  simp only [readItems, read, Option.bind_eq_bind, Option.bind_some, last, Option.pure_def]

theorem readItems_of_next (read : readValue fuel depth text = some (item, rest))
    (next : skipSpace rest = ',' :: behind) :
    readItems (fuel + 1) depth text =
      (readItems fuel depth behind).map fun read => (item :: read.1, read.2) := by
  simp only [readItems, read, Option.bind_eq_bind, Option.bind_some, next, Option.pure_def]
  cases readItems fuel depth behind <;> rfl

theorem readFields_of_last (name : String) (fields : List (String × Value))
    (read : readValue fuel depth text = some (value, rest))
    (last : skipSpace rest = '\x7d' :: behind) :
    readFields (fuel + 1) depth fields ((stringText name).toList ++ ':' :: text) =
      some (.object (setField name value fields), behind) := by
  rw [toList_stringText_append, readFields, skipSpace_quote]
  simp only [readString_escaped, skipSpace_colon, read, last, Option.bind_eq_bind,
    Option.bind_some, Option.pure_def, String.ofList_toList]

theorem readFields_of_next (name : String) (fields : List (String × Value))
    (read : readValue fuel depth text = some (value, rest))
    (next : skipSpace rest = ',' :: behind) :
    readFields (fuel + 1) depth fields ((stringText name).toList ++ ':' :: text) =
      readFields fuel depth (setField name value fields) behind := by
  rw [toList_stringText_append, readFields, skipSpace_quote]
  simp only [readString_escaped, skipSpace_colon, read, next, Option.bind_eq_bind,
    Option.bind_some, String.ofList_toList]

end

theorem toList_intercalate_cons_cons (text next : String) (texts : List String)
    (rest : List Char) :
    (",\n".intercalate (text :: next :: texts)).toList ++ rest =
      text.toList ++ ',' :: '\n' :: ((",\n".intercalate (next :: texts)).toList ++ rest) := by
  simp [String.intercalate_cons_cons]

/-- Items on lines of their own are read one after the other. -/
theorem readItems_intercalate {α : Type} {text : α → String} {value : α → Value}
    {needed depth : Nat}
    (reads : ∀ item fuel rest, needed ≤ fuel →
      readValue fuel depth ((text item).toList ++ rest) = some (value item, rest))
    {list : List α} (some : list ≠ []) (rest : List Char) (fuel : Nat)
    (enough : needed + list.length ≤ fuel) :
    readItems fuel depth ((",\n".intercalate (list.map text)).toList ++ '\n' :: ']' :: rest) =
      .some (list.map value, rest) := by
  induction list generalizing fuel with
  | nil => exact absurd rfl some
  | cons item list ih =>
    rw [List.length_cons] at enough
    obtain ⟨fuel, rfl⟩ : ∃ less, fuel = less + 1 := Nat.exists_eq_add_one.2 (by omega)
    have first (rest : List Char) := reads item fuel rest (by omega)
    cases list with
    | nil =>
      rw [List.map_singleton, String.intercalate_singleton, readItems_of_last (first _) rfl]
      rfl
    | cons next list =>
      have later := ih (List.cons_ne_nil next list) fuel (by omega)
      rw [List.map_cons] at later
      rw [List.map_cons, List.map_cons, toList_intercalate_cons_cons,
        readItems_of_next (first _) rfl, readItems_congr (skipSpace_lineEnd _), later]
      rfl

end JsxPages.Json
