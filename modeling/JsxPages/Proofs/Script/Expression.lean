import JsxPages.Proofs.Attribute.Values
import JsxPages.Proofs.Image.Identifier
import JsxPages.Proofs.Script.StringLiteral
/-!
# Expressions of module code

The expressions that a property may be set to (`IsExpression`): a truth value, a path of names whose
first is an identifier, a decimal number, an object literal whose fields are string literals. Module
code is strict, so there are more reserved words and fewer ways to write a number.

What is written for a style is such an object, and its strings are read as the values of the style
without carriage returns (`isObject_objectLiteral`). The identifier of an image is such a path.
-/

namespace JsxPages.Script

/-! ### Names -/

/-- Words that are no identifiers in module code. -/
def reservedWords : List String :=
  ["await", "break", "case", "catch", "class", "const", "continue", "debugger", "default",
    "delete", "do", "else", "enum", "export", "extends", "false", "finally", "for", "function",
    "if", "implements", "import", "in", "instanceof", "interface", "let", "new", "null",
    "package", "private", "protected", "public", "return", "static", "super", "switch", "this",
    "throw", "true", "try", "typeof", "var", "void", "while", "with", "yield"]

/-- Characters of words that names do not have: enclosing marks and enclosed letters. -/
def wordRangesOutsideNames : Text.Ranges :=
  [(0x488, 0x489), (0x1ABE, 0x1ABE), (0x20DD, 0x20E0), (0x20E2, 0x20E4), (0x24B6, 0x24E9),
    (0x2E2F, 0x2E2F), (0xA670, 0xA672), (0x1F130, 0x1F149), (0x1F150, 0x1F169),
    (0x1F170, 0x1F189)]

/-- Characters of names that words do not have. -/
def nameRangesOutsideWords : Text.Ranges :=
  [(0xB7, 0xB7), (0x387, 0x387), (0x1369, 0x1371), (0x19DA, 0x19DA), (0x2118, 0x2118),
    (0x212E, 0x212E), (0x309B, 0x309C), (0x30FB, 0x30FB), (0xFF65, 0xFF65)]

/-- Whether a character may stand in a name behind the first. -/
def isNamePart (c : Char) : Bool :=
  Text.isWord c && !wordRangesOutsideNames.contains c || nameRangesOutsideWords.contains c ||
    c == '$'

/-- Whether a text is a name that begins in ASCII. -/
def isName : List Char → Bool
  | [] => false
  | c :: rest => Name.isIdentifierStart c && rest.all isNamePart

/-- The first of the names between points. -/
def firstName (text : List Char) : String :=
  String.ofList (text.takeWhile (· != '.'))

/-- Whether a text is a path of names of which the first is an identifier. -/
def isMemberPath (text : List Char) : Bool :=
  (Text.splitWhere (· == '.') text).all isName && !reservedWords.contains (firstName text)

/-! ### Numbers -/

def isDigits (text : List Char) : Bool :=
  !text.isEmpty && text.all Char.isDigit

def withoutSign : List Char → List Char
  | '-' :: rest => rest
  | text => text

/-- The digits in front of the point. -/
def wholePart (text : List Char) : List Char :=
  (withoutSign text).takeWhile (· != '.')

/-- Whether a zero begins digits that do not need it. -/
def hasIdleZero : List Char → Bool
  | '0' :: _ :: _ => true
  | _ => false

/-- Whether a text is a decimal number without an exponent, as strict code may write it. -/
def isDecimal (text : List Char) : Bool :=
  isDigits (wholePart text) && !hasIdleZero (wholePart text) &&
    ((Text.cutFirst '.' (withoutSign text)).map (·.2)).all isDigits

/-! ### Objects -/

/-- A string literal with its value. -/
def IsLiteral (text : List Char) (value : List Nat) : Prop :=
  ∃ quote body, (quote = '\'' ∨ quote = '"') ∧ text = quote :: body ∧
    readString quote body = some (value, [])

/-- Fields with string literals, and the values of these. -/
inductive IsFields : List Char → List (String × List Nat) → Prop where
  | last {name : String} {literal : List Char} {value : List Nat}
      (named : Name.isIdentifier name = true) (valued : IsLiteral literal value) :
      IsFields (name.toList ++ ": ".toList ++ literal) [(name, value)]
  | cons {name : String} {literal rest : List Char} {value : List Nat}
      {fields : List (String × List Nat)} (named : Name.isIdentifier name = true)
      (valued : IsLiteral literal value) (others : IsFields rest fields) :
      IsFields (name.toList ++ ": ".toList ++ literal ++ ", ".toList ++ rest)
        ((name, value) :: fields)

/-- An object literal with the values of its fields. -/
def IsObject (text : List Char) (fields : List (String × List Nat)) : Prop :=
  ∃ inner, IsFields inner fields ∧ text = "\x7b ".toList ++ inner ++ " \x7d".toList

/-- What a property may be set to. -/
inductive IsExpression (text : List Char) : Prop where
  | truth (same : text = "true".toList ∨ text = "false".toList)
  | path (path : isMemberPath text = true)
  | number (decimal : isDecimal text = true)
  | object (fields : List (String × List Nat)) (object : IsObject text fields)

/-! ### Strings, read -/

/-- What is written between two quotes stands for a value, whatever follows. -/
def Stands (quote : Char) (written : List Char) (value : List Nat) : Prop :=
  ∀ text, readString quote (written ++ text) =
    (readString quote text).map fun (values, rest) => (value ++ values, rest)

theorem stands_nil (quote : Char) : Stands quote [] [] := by
  intro text
  simp

theorem Stands.append {quote : Char} {first second : List Char} {value more : List Nat}
    (stands : Stands quote first value) (behind : Stands quote second more) :
    Stands quote (first ++ second) (value ++ more) := by
  intro text
  rw [List.append_assoc, stands, behind, Option.map_map]
  refine congrArg (Option.map · _) (funext fun read => ?_)
  simp

theorem stands_plain {quote c : Char} (plain : isPlain quote c = true) :
    Stands quote [c] (unitsOf c) := by
  simp only [isPlain, Bool.and_eq_true, bne_iff_ne] at plain
  obtain ⟨⟨⟨notQuote, notFeed⟩, notReturn⟩, notEscape⟩ := plain
  intro text
  rw [List.singleton_append, readString, if_neg notQuote, if_neg (by simp [notFeed, notReturn]),
    if_neg notEscape]

theorem stands_escape {quote c : Char} (notEscape : quote ≠ '\\') {value : List Nat}
    (escape : ∀ text, readEscape (c :: text) = some (value, text)) :
    Stands quote ['\\', c] value := by
  intro text
  rw [List.cons_append, List.singleton_append, readString, if_neg (Ne.symm notEscape),
    if_neg (by decide), if_pos rfl]
  split
  · rename_i none
    rw [escape] at none
    cases none
  · rename_i same
    rw [escape] at same
    cases same
    rfl

theorem stands_flatMap {quote : Char} {write : Char → List Char} {value : Char → List Nat}
    {text : List Char} (each : ∀ c ∈ text, Stands quote (write c) (value c)) :
    Stands quote (text.flatMap write) (text.flatMap value) := by
  induction text with
  | nil => exact stands_nil quote
  | cons c text ih =>
    obtain ⟨first, others⟩ := List.forall_mem_cons.1 each
    rw [List.flatMap_cons, List.flatMap_cons]
    exact first.append (ih others)

theorem Stands.isLiteral {quote : Char} (isQuote : quote = '\'' ∨ quote = '"') {body : List Char}
    {value : List Nat} (stands : Stands quote body value) :
    IsLiteral (quote :: (body ++ [quote])) value := by
  refine ⟨quote, _, isQuote, rfl, ?_⟩
  rw [stands, readString, if_pos rfl]
  simp

/-- What a string is read as: carriage returns are left out when it is written. -/
def keptUnits (c : Char) : List Nat :=
  if c = '\r' then [] else unitsOf c

theorem stands_literalChar {quote c : Char} (isQuote : quote = '\'' ∨ quote = '"')
    (notQuote : c ≠ quote) : Stands quote (Jsx.literalChar c) (keptUnits c) := by
  have notEscape : quote ≠ '\\' := by
    rcases isQuote with rfl | rfl <;> decide
  unfold Jsx.literalChar
  split
  · exact stands_escape notEscape fun text => rfl
  · exact stands_escape notEscape fun text => rfl
  · exact stands_nil quote
  · rename_i notBackslash notFeed notReturn
    have plain : isPlain quote c = true := by
      simp only [isPlain, Bool.and_eq_true, bne_iff_ne]
      exact ⟨⟨⟨notQuote, notFeed⟩, notReturn⟩, notBackslash⟩
    rw [keptUnits, if_neg notReturn]
    exact stands_plain plain

/-- What stands between the quotes of a string literal is read as its text without carriage
returns. -/
theorem stands_stringLiteral (value : String) :
    ∃ quote body, (quote = '\'' ∨ quote = '"') ∧
      (Jsx.stringLiteral value).toList = quote :: (body ++ [quote]) ∧
      Stands quote body (value.toList.flatMap keptUnits) := by
  unfold Jsx.stringLiteral
  dsimp only
  rw [String.toList_ofList]
  split
  · rename_i double
    -- double quotes are only written around a text that needs none
    have free : '"' ∉ value.toList.flatMap Jsx.literalChar := by
      simpa using (Bool.and_eq_true_iff.1 double).2
    refine ⟨'"', _, .inr rfl, rfl, stands_flatMap fun c mem => ?_⟩
    refine stands_literalChar (.inr rfl) ?_
    rintro rfl
    exact free (List.mem_flatMap.2 ⟨'"', mem, by decide⟩)
  · rw [List.flatMap_assoc]
    refine ⟨'\'', _, .inl rfl, rfl, stands_flatMap fun c _ => ?_⟩
    rw [Jsx.flatMap_escapeSingle_literalChar]
    split
    · rename_i single
      rw [single]
      exact stands_escape (by decide) fun text => rfl
    · rename_i notSingle
      exact stands_literalChar (.inl rfl) notSingle

theorem isLiteral_stringLiteral (value : String) :
    IsLiteral (Jsx.stringLiteral value).toList (value.toList.flatMap keptUnits) := by
  obtain ⟨quote, body, isQuote, written, stands⟩ := stands_stringLiteral value
  rw [written]
  exact stands.isLiteral isQuote

/-! ### Styles -/

theorem isFields_fields {fields : List (String × String)} (some : fields ≠ [])
    (named : ∀ field ∈ fields, Name.isIdentifier field.1 = true) :
    IsFields (", ".intercalate (fields.map Style.fieldText)).toList
      (fields.map fun field => (field.1, field.2.toList.flatMap keptUnits)) := by
  induction fields with
  | nil => exact absurd rfl some
  | cons field fields ih =>
    obtain ⟨first, others⟩ := List.forall_mem_cons.1 named
    have literal := isLiteral_stringLiteral field.2
    cases fields with
    | nil =>
      rw [List.map_singleton, List.map_singleton, String.intercalate_singleton, Style.fieldText,
        String.toList_append, String.toList_append]
      exact .last first literal
    | cons next rest =>
      have behind := ih (List.cons_ne_nil next rest) others
      rw [List.map_cons, List.map_cons, List.map_cons, String.intercalate_cons_cons,
        ← List.map_cons, String.toList_append, String.toList_append, Style.fieldText,
        String.toList_append, String.toList_append]
      exact .cons first literal behind

/-- A style object is read as the properties of the style, its texts without carriage returns. -/
theorem isObject_objectLiteral {style : Style} (named : style.Named) {object : String}
    (given : style.objectLiteral? = some object) :
    IsObject object.toList
      (style.properties.map fun field => (field.1, field.2.toList.flatMap keptUnits)) := by
  unfold Style.objectLiteral? at given
  split at given
  · cases given
  · rename_i notEmpty
    obtain rfl := Option.some.inj given
    have some : style.properties ≠ [] := by simpa using notEmpty
    refine ⟨_, isFields_fields some named, ?_⟩
    rw [String.toList_append, String.toList_append]

/-! ### Images -/

theorem isNamePart_of_isAlphanum {c : Char} (alphanumeric : c.isAlphanum = true) :
    isNamePart c = true :=
  Text.of_isAlphanum (P := fun c => isNamePart c = true) (by decide +kernel) alphanumeric

theorem isExpression_of_isBinding {identifier : String}
    (binding : Image.isBinding identifier = true) : IsExpression identifier.toList := by
  obtain ⟨shape, notReserved⟩ := Bool.and_eq_true_iff.1 binding
  obtain ⟨⟨c, rest, begins, lower⟩, all⟩ := Options.hasShape_iff.1 shape
  have point : ∀ d ∈ identifier.toList, (d == '.') = false := by
    intro d mem
    exact Text.of_isAlphanum (P := fun c => (c == '.') = false) (by decide) (all d mem)
  have first : firstName identifier.toList = identifier := by
    rw [firstName, List.takeWhile_eq_self_iff.2, String.ofList_toList]
    intro d mem
    simpa using point d mem
  have fewer : reservedWords ⊆ Image.reservedWords := by decide
  refine .path ?_
  rw [isMemberPath, Text.splitWhere_of_none point, first, Bool.and_eq_true]
  constructor
  · rw [begins] at all ⊢
    simp only [List.all_cons, isName, Name.isIdentifierStart, Text.isAlpha_of_isLower lower,
      Bool.true_or, Bool.true_and, List.all_nil, Bool.and_true, List.all_eq_true]
    intro d mem
    exact isNamePart_of_isAlphanum (all d (List.mem_cons_of_mem _ mem))
  · simp only [Bool.not_eq_true', List.contains_eq_mem, decide_eq_false_iff_not] at notReserved ⊢
    exact fun reserved => notReserved (fewer reserved)

end JsxPages.Script
