import JsxPages.Proofs.Attribute.Names
import JsxPages.Proofs.Name.Case
import JsxPages.Proofs.Script.Expression
import JsxPages.Proofs.Style.Composition
/-!
# Object literals, read

A script reads an object literal as the fields between its braces, each a name and a string
(`readObject`). Between names, signs and strings there may be white space, and behind the last field
a comma. One name makes no field: `__proto__` with a colon says what the object inherits from.

What is written for a style is read as the properties of the style, one field each, and nothing of
what follows belongs to it (`readObject_objectLiteral`). The names are told by their characters, of
which none is an underscore, and every value is a string that ends where it was written to end.
-/

namespace JsxPages.Script

/-! ### Reading -/

/-- White space and line ends: what is blank, but not a next line control, and byte order marks. -/
def isSpace (c : Char) : Bool :=
  Text.isBlank c && c != '\x85' || c == '\uFEFF'

def skipSpaces (text : List Char) : List Char :=
  text.dropWhile isSpace

/-- Reads one character, which may stand behind white space. -/
def readSign (sign : Char) (text : List Char) : Option (List Char) :=
  [sign].isPrefixOf? (skipSpaces text)

/-- Reads a string: its value, and what follows. -/
def readLiteral : List Char → Option (List Nat × List Char)
  | [] => none
  | c :: rest => if c = '\'' ∨ c = '"' then readString c rest else none

def isFieldName (name : String) : Bool :=
  Name.isIdentifier name && name != "__proto__"

/-- Reads a field: its name and its value, and what follows. -/
def readField (text : List Char) : Option ((String × List Nat) × List Char) :=
  let name := String.ofList ((skipSpaces text).takeWhile Name.isIdentifierChar)
  if isFieldName name then
    (readSign ':' ((skipSpaces text).dropWhile Name.isIdentifierChar)).bind fun text =>
      (readLiteral (skipSpaces text)).map fun (value, rest) => ((name, value), rest)
  else
    none

theorem length_readSign_lt {sign : Char} {text rest : List Char}
    (read : readSign sign text = some rest) : rest.length < text.length := by
  have whole : sign :: rest = text.dropWhile isSpace :=
    List.isPrefixOf?_eq_some_iff_append_eq.1 read
  exact Text.length_of_dropWhile_eq_cons whole.symm

theorem length_readLiteral_lt {text rest : List Char} {value : List Nat}
    (read : readLiteral text = some (value, rest)) : rest.length < text.length := by
  cases text with
  | nil => cases read
  | cons c text =>
    rw [readLiteral] at read
    split at read
    · have bound := length_readString_lt read
      rw [List.length_cons]
      omega
    · cases read

theorem length_readField_lt {text rest : List Char} {field : String × List Nat}
    (read : readField text = some (field, rest)) : rest.length < text.length := by
  simp only [readField] at read
  split at read
  · obtain ⟨behind, colon, read⟩ := Option.bind_eq_some_iff.1 read
    obtain ⟨⟨value, after⟩, literal, same⟩ := Option.map_eq_some_iff.1 read
    obtain ⟨_, rfl⟩ := Prod.mk.inj same
    have atName := Text.length_dropWhile_le isSpace text
    have atColon := Text.length_dropWhile_le Name.isIdentifierChar (skipSpaces text)
    have behindColon := length_readSign_lt colon
    have atValue := Text.length_dropWhile_le isSpace behind
    have behindValue := length_readLiteral_lt literal
    unfold skipSpaces at atColon behindColon behindValue
    show after.length < text.length
    omega
  · cases read

/-- Reads fields up to the brace that closes them. -/
def readFields (text : List Char) : Option (List (String × List Nat) × List Char) :=
  match readSign '\x7d' text with
  | some rest => some ([], rest)
  | none =>
    match h : readField text with
    | none => none
    | some (field, behind) =>
      match readSign '\x7d' behind with
      | some rest => some ([field], rest)
      | none =>
        match h' : readSign ',' behind with
        | none => none
        | some next =>
          have : next.length < text.length :=
            (length_readSign_lt h').trans (length_readField_lt h)
          (readFields next).map fun (fields, rest) => (field :: fields, rest)
termination_by text.length

/-- Reads an object literal: its fields, and what follows. -/
def readObject (text : List Char) : Option (List (String × List Nat) × List Char) :=
  (readSign '\x7b' text).bind readFields

theorem readFields_of_last {text behind rest : List Char} {field : String × List Nat}
    (notClosed : readSign '\x7d' text = none) (read : readField text = some (field, behind))
    (closed : readSign '\x7d' behind = some rest) : readFields text = some ([field], rest) := by
  rw [readFields, notClosed]
  dsimp only
  split
  · rename_i none
    rw [read] at none
    cases none
  · rename_i same
    rw [read] at same
    obtain ⟨rfl, rfl⟩ := Prod.mk.inj (Option.some.inj same)
    rw [closed]

theorem readFields_of_next {text behind next : List Char} {field : String × List Nat}
    (notClosed : readSign '\x7d' text = none) (read : readField text = some (field, behind))
    (notLast : readSign '\x7d' behind = none) (comma : readSign ',' behind = some next) :
    readFields text = (readFields next).map fun (fields, rest) => (field :: fields, rest) := by
  rw [readFields, notClosed]
  dsimp only
  split
  · rename_i none
    rw [read] at none
    cases none
  · rename_i same
    rw [read] at same
    obtain ⟨rfl, rfl⟩ := Prod.mk.inj (Option.some.inj same)
    rw [notLast]
    dsimp only
    split
    · rename_i none
      rw [comma] at none
      cases none
    · rename_i same
      rw [comma] at same
      obtain rfl := Option.some.inj same
      rfl

/-! ### Signs and names -/

theorem skipSpaces_space (text : List Char) : skipSpaces (' ' :: text) = skipSpaces text :=
  List.dropWhile_cons_of_pos (by decide)

theorem skipSpaces_of_solid {c : Char} (solid : isSpace c = false) (rest : List Char) :
    skipSpaces (c :: rest) = c :: rest :=
  List.dropWhile_cons_of_neg (by simp [solid])

theorem readSign_cons {c : Char} (solid : isSpace c = false) (rest : List Char) :
    readSign c (c :: rest) = some rest := by
  rw [readSign, skipSpaces_of_solid solid]
  exact List.isPrefixOf?_eq_some_iff_append_eq.2 rfl

theorem readSign_of_ne {sign c : Char} (solid : isSpace c = false) (other : c ≠ sign)
    (rest : List Char) : readSign sign (c :: rest) = none := by
  rw [readSign, skipSpaces_of_solid solid, Option.eq_none_iff_forall_ne_some]
  intro behind same
  have whole : sign :: behind = c :: rest := List.isPrefixOf?_eq_some_iff_append_eq.1 same
  exact other (List.cons.inj whole).1.symm

theorem readSign_space (sign : Char) (text : List Char) :
    readSign sign (' ' :: text) = readSign sign text := by
  rw [readSign, readSign, skipSpaces_space]

theorem isSpace_of_isIdentifierChar {c : Char} (inName : Name.isIdentifierChar c = true) :
    isSpace c = false ∧ c ≠ '\x7d' := by
  simp only [Name.isIdentifierChar, Bool.or_eq_true, beq_iff_eq] at inName
  rcases inName with (alphanumeric | rfl) | rfl
  · exact Text.of_isAlphanum (P := fun c => isSpace c = false ∧ c ≠ '\x7d') (by decide)
      alphanumeric
  · decide
  · decide

theorem exists_cons_of_isIdentifier {name : String} (identifier : Name.isIdentifier name = true) :
    ∃ c rest, name.toList = c :: rest ∧ ∀ d ∈ c :: rest, Name.isIdentifierChar d = true := by
  unfold Name.isIdentifier at identifier
  split at identifier
  · cases identifier
  · rename_i c rest spelled
    obtain ⟨start, others⟩ := Bool.and_eq_true_iff.1 identifier
    refine ⟨c, rest, spelled, List.forall_mem_cons.2 ⟨?_, List.all_eq_true.1 others⟩⟩
    exact Name.isIdentifierChar_of_start start

/-! ### Strings -/

/-- A text as it is kept in a string, where carriage returns are left out. -/
def withoutReturns (text : String) : List Char :=
  text.toList.filter (· != '\r')

theorem flatMap_keptUnits (text : List Char) :
    text.flatMap keptUnits = units (text.filter (· != '\r')) := by
  induction text with
  | nil => rfl
  | cons c rest ih =>
    rw [List.flatMap_cons, ih, keptUnits]
    by_cases isReturn : c = '\r'
    · rw [if_pos isReturn, List.filter_cons_of_neg (by simp [isReturn])]
      rfl
    · rw [if_neg isReturn, List.filter_cons_of_pos (by simp [isReturn]), units_cons]

/-- A string literal ends at its own quote, whatever follows. -/
theorem readLiteral_stringLiteral (value : String) (rest : List Char) :
    readLiteral ((Jsx.stringLiteral value).toList ++ rest) =
      some (units (withoutReturns value), rest) := by
  obtain ⟨quote, body, isQuote, written, stands⟩ := stands_stringLiteral value
  have closed : readString quote (quote :: rest) = some ([], rest) := by
    rw [readString, if_pos rfl]
  rw [written, List.cons_append, List.append_assoc, List.singleton_append, readLiteral,
    if_pos isQuote, stands, closed, Option.map_some]
  show some (value.toList.flatMap keptUnits ++ [], rest) = _
  rw [List.append_nil, flatMap_keptUnits]
  rfl

theorem exists_cons_stringLiteral (value : String) :
    ∃ quote body, (Jsx.stringLiteral value).toList = quote :: body ∧ isSpace quote = false := by
  obtain ⟨quote, body, isQuote, written, _⟩ := stands_stringLiteral value
  refine ⟨quote, _, written, ?_⟩
  rcases isQuote with rfl | rfl <;> decide

/-! ### Fields -/

/-- What a script finds in a style: its properties, each with the value of its string. -/
def fieldsOf (properties : List (String × String)) : List (String × List Nat) :=
  properties.map fun field => (field.1, units (withoutReturns field.2))

theorem readField_fieldText {field : String × String} (named : isFieldName field.1 = true)
    (rest : List Char) :
    readField ((Style.fieldText field).toList ++ rest) =
      some ((field.1, units (withoutReturns field.2)), rest) := by
  obtain ⟨c, name, spelled, inName⟩ :=
    exists_cons_of_isIdentifier (Bool.and_eq_true_iff.1 named).1
  obtain ⟨quote, body, literal, solid⟩ := exists_cons_stringLiteral field.2
  have whole : (Style.fieldText field).toList ++ rest =
      c :: name ++ ':' :: ' ' :: ((Jsx.stringLiteral field.2).toList ++ rest) := by
    rw [← spelled]
    simp [Style.fieldText]
  have atName : isSpace c = false := (isSpace_of_isIdentifierChar (inName c List.mem_cons_self)).1
  have ends : ¬ Name.isIdentifierChar ':' = true := by decide
  have isName : String.ofList (c :: name) = field.1 := by rw [← spelled, String.ofList_toList]
  have atString : skipSpaces (' ' :: ((Jsx.stringLiteral field.2).toList ++ rest)) =
      (Jsx.stringLiteral field.2).toList ++ rest := by
    rw [skipSpaces_space, literal]
    exact skipSpaces_of_solid solid _
  have taken (text : List Char) :
      (c :: name ++ ':' :: text).takeWhile Name.isIdentifierChar = c :: name := by
    rw [List.takeWhile_append_of_pos inName, List.takeWhile_cons_of_neg ends, List.append_nil]
  have dropped (text : List Char) :
      (c :: name ++ ':' :: text).dropWhile Name.isIdentifierChar = ':' :: text := by
    rw [List.dropWhile_append_of_pos inName, List.dropWhile_cons_of_neg ends]
  rw [readField, whole, List.cons_append, skipSpaces_of_solid atName, ← List.cons_append]
  simp only [taken, dropped, isName]
  rw [if_pos named, readSign_cons (by decide), Option.bind_some, atString,
    readLiteral_stringLiteral, Option.map_some]

/-- Where a field begins, no brace closes the object. -/
theorem readSign_fieldText {field : String × String} (named : isFieldName field.1 = true)
    (rest : List Char) :
    readSign '\x7d' (' ' :: ((Style.fieldText field).toList ++ rest)) = none := by
  obtain ⟨c, name, spelled, inName⟩ :=
    exists_cons_of_isIdentifier (Bool.and_eq_true_iff.1 named).1
  obtain ⟨solid, other⟩ := isSpace_of_isIdentifierChar (inName c List.mem_cons_self)
  rw [readSign_space, Style.fieldText, String.toList_append, String.toList_append, spelled]
  exact readSign_of_ne solid other _

theorem readField_space (text : List Char) : readField (' ' :: text) = readField text := by
  rw [readField, readField, skipSpaces_space]

/-- The fields of a style object as they stand between its braces. -/
def fieldsText (properties : List (String × String)) : List Char :=
  (", ".intercalate (properties.map Style.fieldText)).toList

theorem fieldsText_singleton (field : String × String) :
    fieldsText [field] = (Style.fieldText field).toList := by
  rw [fieldsText, List.map_singleton, String.intercalate_singleton]

theorem fieldsText_cons_cons (field next : String × String) (others : List (String × String)) :
    fieldsText (field :: next :: others) =
      (Style.fieldText field).toList ++ ',' :: ' ' :: fieldsText (next :: others) := by
  rw [fieldsText, fieldsText, List.map_cons, List.map_cons, String.intercalate_cons_cons,
    String.toList_append, String.toList_append, List.append_assoc]
  rfl

theorem readFields_fieldsText {fields : List (String × String)} (notEmpty : fields ≠ [])
    (named : ∀ field ∈ fields, isFieldName field.1 = true) (rest : List Char) :
    readFields (' ' :: (fieldsText fields ++ ' ' :: '\x7d' :: rest)) =
      some (fieldsOf fields, rest) := by
  induction fields with
  | nil => exact absurd rfl notEmpty
  | cons field fields ih =>
    obtain ⟨first, others⟩ := List.forall_mem_cons.1 named
    cases fields with
    | nil =>
      rw [fieldsText_singleton]
      apply readFields_of_last (readSign_fieldText first _)
      · rw [readField_space]
        exact readField_fieldText first _
      · rw [readSign_space]
        exact readSign_cons (by decide) rest
    | cons next fields =>
      have behind := ih (List.cons_ne_nil next fields) others
      have read := readField_fieldText first
        (',' :: ' ' :: (fieldsText (next :: fields) ++ ' ' :: '\x7d' :: rest))
      rw [fieldsText_cons_cons, List.append_assoc, List.cons_append, List.cons_append,
        readFields_of_next (readSign_fieldText first _) ((readField_space _).trans read)
          (readSign_of_ne (by decide) (by decide) _) (readSign_cons (by decide) _), behind]
      rfl

/-! ### Styles -/

/-- The field of a property is spelled without hyphens, colons and underscores. -/
theorem isSeparator_fieldName (property : String) :
    ∀ c ∈ (Style.fieldName property).toList, Name.isSeparator c = false := by
  unfold Style.fieldName
  split
  · exact Name.isSeparator_camelCase _
  · exact Name.isSeparator_capitalize (Name.isSeparator_camelCase _)
  · exact Name.isSeparator_camelCase _

theorem isFieldName_ofText (css : String) :
    ∀ field ∈ (Style.ofText css).properties, isFieldName field.1 = true := by
  intro field mem
  have declared := (Style.declaredIn_ofText css).properties field mem
  obtain ⟨written, _, read⟩ := List.mem_filterMap.1 declared
  obtain ⟨_, _, _, _, ⟨_, _, isCustom⟩ | regular⟩ := Style.readDeclaration?_cases read
  · cases isCustom
  · obtain ⟨same, identifier, _⟩ := Style.readRegular?_eq_some regular
    obtain ⟨name, _⟩ := Style.Declaration.regular.inj same
    rw [← name] at identifier
    have noProto : field.1 ≠ "__proto__" := by
      intro proto
      have solid := isSeparator_fieldName _ '_' (by rw [← name, proto]; decide)
      revert solid
      decide
    rw [isFieldName, identifier, Bool.true_and, bne_iff_ne]
    exact noProto

/-- **A style object says what the style says.** An object literal is written for a style if and
only if the style has properties. A script reads it to its end and no further: as the properties of
the style, in their order and under distinct names, each with its value as a string, without
carriage returns. So it is with every string literal, whatever stands in the string. -/
theorem readObject_objectLiteral (css : String) :
    ((Style.ofText css).objectLiteral? = none ↔ (Style.ofText css).properties = []) ∧
    (∀ object, (Style.ofText css).objectLiteral? = some object → ∀ rest,
      readObject (object.toList ++ rest) = some (fieldsOf (Style.ofText css).properties, rest)) ∧
    ((fieldsOf (Style.ofText css).properties).map (·.1)).Nodup ∧
    ∀ value rest, readLiteral ((Jsx.stringLiteral value).toList ++ rest) =
      some (units (withoutReturns value), rest) := by
  set style := Style.ofText css
  refine ⟨?_, ?_, ?_, readLiteral_stringLiteral⟩
  · rw [Style.objectLiteral?]
    split
    · rename_i empty
      simpa using empty
    · rename_i notEmpty
      simpa using notEmpty
  · intro object given rest
    unfold Style.objectLiteral? at given
    split at given
    · cases given
    rename_i notEmpty
    obtain rfl := Option.some.inj given
    have some : style.properties ≠ [] := by simpa using notEmpty
    have opening : "\x7b ".toList = ['\x7b', ' '] := by decide
    have closing : " \x7d".toList = [' ', '\x7d'] := by decide
    rw [String.toList_append, String.toList_append, opening, closing, ← fieldsText]
    simp only [List.cons_append, List.nil_append, List.append_assoc]
    rw [readObject, readSign_cons (by decide), Option.bind_some]
    exact readFields_fieldsText some (isFieldName_ofText css) rest
  · rw [fieldsOf, List.map_map]
    exact (Style.distinct_ofText css).properties

/-- Both kinds of quotes with a backslash, a line break, and an address between quotes. -/
theorem readObject_objectLiteral_quotes :
    let css := "content: 'a' \"b\\\"; margin: 1px\r\n2px; -ms-flex: url('x')"
    let object :=
      "\x7b content: '\\'a\\' \"b\\\\\"', margin: '1px\\n2px', msFlex: \"url('x')\" \x7d"
    (Style.ofText css).objectLiteral? = some object ∧
      readObject (object.toList ++ "\x7d".toList) =
        some ([("content", units "'a' \"b\\\"".toList), ("margin", units "1px\n2px".toList),
          ("msFlex", units "url('x')".toList)], "\x7d".toList) := by
  intro css object
  have given : (Style.ofText css).objectLiteral? = some object := by decide
  have fields : fieldsOf (Style.ofText css).properties =
      [("content", units "'a' \"b\\\"".toList), ("margin", units "1px\n2px".toList),
        ("msFlex", units "url('x')".toList)] := by decide
  obtain ⟨_, read, _⟩ := readObject_objectLiteral css
  exact ⟨given, (read object given _).trans (by rw [fields])⟩

end JsxPages.Script
