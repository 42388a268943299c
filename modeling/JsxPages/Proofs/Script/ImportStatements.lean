import JsxPages.Name.Attribute
import JsxPages.Proofs.Image.Identifier
import JsxPages.Proofs.Script.StringLiteral
import Mathlib.Algebra.GroupWithZero.Nat
import Mathlib.Data.Option.Basic
/-!
# Import statements, read by a script

A script reads import statements as names that are bound to modules (`readStatements`), each module
given by the string literal that names it. Nothing is read as more than it is written with
(`weight_readStatements_le`). So if statements are read as what they were written for, each string
ends where it was written to end, and no character in it means anything but itself
(`readStatements_importStatements_iff`).
-/

namespace JsxPages

namespace Script

/-! ### One statement -/

def importStart : List Char :=
  "import ".toList

def sourceStart : List Char :=
  " from '".toList

def statementEnd : List Char :=
  ";\n".toList

/-- A statement that imports a module under a name. -/
def importStatement (name source : List Char) : List Char :=
  importStart ++ (name ++ (sourceStart ++ (source ++ '\'' :: statementEnd)))

/-- Whether a script can bind a name. -/
def isBindable (name : String) : Bool :=
  Name.isIdentifier name && !Image.reservedWords.contains name

/-- Reads such a statement: the name, and the module as the value of the string that names it. -/
def readStatement (text : List Char) : Option ((String × List Nat) × List Char) := do
  let text ← importStart.isPrefixOf? text
  let name := String.ofList (text.takeWhile Name.isIdentifierChar)
  guard (isBindable name)
  let text ← sourceStart.isPrefixOf? (text.dropWhile Name.isIdentifierChar)
  let (source, text) ← readString '\'' text
  let text ← statementEnd.isPrefixOf? text
  return ((name, source), text)

theorem isPrefixOf?_append (start rest : List Char) :
    start.isPrefixOf? (start ++ rest) = some rest :=
  List.isPrefixOf?_eq_some_iff_append_eq.2 rfl

theorem readStatement_eq_some {text rest : List Char} {name : String} {source : List Nat}
    (read : readStatement text = some ((name, source), rest)) :
    ∃ behind, text = importStart ++ (name.toList ++ (sourceStart ++ behind)) ∧
      readString '\'' behind = some (source, statementEnd ++ rest) := by
  simp only [readStatement, Option.bind_eq_bind, Option.bind_eq_some_iff] at read
  obtain ⟨afterImport, import', _, _, behind, from', ⟨value, afterString⟩, literal, after, ends,
    same⟩ := read
  obtain ⟨⟨rfl, rfl⟩, rfl⟩ : (_ = name ∧ value = source) ∧ after = rest := by simpa using same
  rw [List.isPrefixOf?_eq_some_iff_append_eq] at import' from' ends
  refine ⟨behind, ?_, by rw [literal, ends]⟩
  rw [String.toList_ofList, from', List.takeWhile_append_dropWhile, import']

theorem isIdentifierChar_of_isAlphanum {c : Char} (alphanumeric : c.isAlphanum = true) :
    Name.isIdentifierChar c = true := by
  simp [Name.isIdentifierChar, alphanumeric]

theorem isBindable_of_isBinding {name : String} (binding : Image.isBinding name = true) :
    isBindable name = true := by
  obtain ⟨shape, notReserved⟩ := Bool.and_eq_true_iff.1 binding
  obtain ⟨⟨c, rest, begins, lower⟩, all⟩ := Options.hasShape_iff.1 shape
  rw [begins] at all
  have first : Name.isIdentifierStart c = true := by
    simp [Name.isIdentifierStart, Text.isAlpha_of_isLower lower]
  rw [isBindable, Bool.and_eq_true, Name.isIdentifier, begins]
  simp only [first, Bool.true_and, List.all_eq_true]
  exact ⟨fun d mem => isIdentifierChar_of_isAlphanum (all d (List.mem_cons_of_mem _ mem)),
    notReserved⟩

/-- The name of a statement is read off it, wherever its string ends. -/
theorem readStatement_importStatement {name : String} (binding : Image.isBinding name = true)
    (source rest : List Char) :
    readStatement (importStatement name.toList source ++ rest) =
      (readString '\'' (source ++ '\'' :: (statementEnd ++ rest))).bind fun (value, text) =>
        (statementEnd.isPrefixOf? text).map fun text => ((name, value), text) := by
  obtain ⟨shape, _⟩ := Bool.and_eq_true_iff.1 binding
  have inName : ∀ c ∈ name.toList, Name.isIdentifierChar c = true := fun c mem =>
    isIdentifierChar_of_isAlphanum ((Options.hasShape_iff.1 shape).2 c mem)
  generalize text : source ++ '\'' :: (statementEnd ++ rest) = behind
  have whole : importStatement name.toList source ++ rest =
      importStart ++ (name.toList ++ (sourceStart ++ behind)) := by
    simp only [importStatement, ← text, List.append_assoc, List.cons_append]
  have ends : Name.isIdentifierChar ' ' ≠ true := by decide
  have taken : (name.toList ++ (sourceStart ++ behind)).takeWhile Name.isIdentifierChar =
      name.toList := by
    rw [List.takeWhile_append_of_pos inName]
    exact (congrArg (name.toList ++ ·) (List.takeWhile_cons_of_neg ends)).trans (List.append_nil _)
  have dropped : (name.toList ++ (sourceStart ++ behind)).dropWhile Name.isIdentifierChar =
      sourceStart ++ behind := by
    rw [List.dropWhile_append_of_pos inName]
    exact List.dropWhile_cons_of_neg ends
  simp only [readStatement, whole, isPrefixOf?_append, taken, dropped, String.ofList_toList,
    isBindable_of_isBinding binding, guard_true, Option.bind_eq_bind, Option.bind_some,
    Option.pure_def, Option.map_eq_bind]
  rfl

/-! ### What a statement weighs -/

/-- The number of code units in a statement with nothing special in its string. -/
def weight (statement : String × List Nat) : Nat :=
  (units (importStatement statement.1.toList [])).length + statement.2.length

theorem length_importStatement (name : String) (source : List Char) :
    (units (importStatement name.toList source)).length = weight (name, units source) := by
  simp only [weight, importStatement, units_append, units_cons, List.length_append,
    List.nil_append]
  omega

/-- Nothing is read as more than it is. -/
theorem weight_readStatement_le {text rest : List Char} {statement : String × List Nat}
    (read : readStatement text = some (statement, rest)) :
    weight statement + (units rest).length ≤ (units text).length := by
  obtain ⟨behind, rfl, literal⟩ := readStatement_eq_some read
  have bound := length_readString_le literal
  simp only [weight, importStatement, units_append, units_cons, List.length_append,
    List.nil_append] at bound ⊢
  omega

theorem weight_pos (statement : String × List Nat) : 0 < weight statement := by
  have some : 0 < (units importStart).length := by decide
  simp only [weight, importStatement, units_append, List.length_append]
  omega

/-! ### Sequences of statements -/

/-- Reads a text that holds nothing but such statements. -/
def readStatements (text : List Char) : Option (List (String × List Nat)) :=
  if text = [] then
    some []
  else
    match h : readStatement text with
    | none => none
    | some (statement, rest) =>
      have : (units rest).length < (units text).length := by
        have bound := weight_readStatement_le h
        have some := weight_pos statement
        omega
      (readStatements rest).map (statement :: ·)
termination_by (units text).length

theorem readStatements_of_readStatement {text rest : List Char} {statement : String × List Nat}
    (read : readStatement text = some (statement, rest)) :
    readStatements text = (readStatements rest).map (statement :: ·) := by
  have some : text ≠ [] := by
    rintro rfl
    cases read
  rw [readStatements, if_neg some]
  split
  · rename_i none
    rw [read] at none
    cases none
  · rename_i same
    rw [read] at same
    cases same
    rfl

theorem weight_readStatements_le {text : List Char} {statements : List (String × List Nat)}
    (read : readStatements text = some statements) :
    (statements.map weight).sum ≤ (units text).length := by
  fun_induction readStatements text generalizing statements with
  | case1 => simp_all
  | case2 => cases read
  | case3 text _ statement rest first _ ih =>
    obtain ⟨others, readRest, rfl⟩ := Option.map_eq_some_iff.1 read
    have bound := weight_readStatement_le first
    have later := ih readRest
    rw [List.map_cons, List.sum_cons]
    omega

theorem readStatements_eq_cons {text : List Char} {statement : String × List Nat}
    {statements : List (String × List Nat)}
    (read : readStatements text = some (statement :: statements)) :
    ∃ rest, readStatement text = some (statement, rest) ∧
      readStatements rest = some statements := by
  rw [readStatements] at read
  split at read
  · cases read
  split at read
  · cases read
  · rename_i first rest readFirst
    obtain ⟨others, readRest, same⟩ := Option.map_eq_some_iff.1 read
    obtain ⟨rfl, rfl⟩ := List.cons.inj same
    exact ⟨rest, readFirst, readRest⟩

/-- The statements of a list of names, each with the path of a module. -/
def importStatements (entries : List (String × List Char)) : List Char :=
  entries.flatMap fun entry => importStatement entry.1.toList entry.2

theorem importStatements_cons (entry : String × List Char) (rest : List (String × List Char)) :
    importStatements (entry :: rest) =
      importStatement entry.1.toList entry.2 ++ importStatements rest :=
  List.flatMap_cons

theorem length_importStatements (entries : List (String × List Char)) :
    (units (importStatements entries)).length =
      ((entries.map fun entry => (entry.1, units entry.2)).map weight).sum := by
  induction entries with
  | nil => rfl
  | cons entry rest ih =>
    rw [importStatements_cons, units_append, List.length_append, length_importStatement, ih]
    rfl

/-! ### Reading back -/

theorem readStatement_plain {name : String} (binding : Image.isBinding name = true)
    {source : List Char} (plain : ∀ c ∈ source, isPlain '\'' c = true) (rest : List Char) :
    readStatement (importStatement name.toList source ++ rest) =
      some ((name, units source), rest) := by
  rw [readStatement_importStatement binding, readString_plain plain]
  simp only [Option.bind_some, isPrefixOf?_append, Option.map_some]

/-- A string that is read as what it was written for ends where it was written to end, unless it is
read as less. -/
theorem readString_source {source behind rest : List Char}
    (read : readString '\'' (source ++ '\'' :: behind) = some (units source, rest)) :
    (∀ c ∈ source, isPlain '\'' c = true) ∧ rest = behind ∨
      (units rest).length < (units behind).length := by
  rcases readString_cases read with ⟨body, whole, same, plain⟩ | less
  · left
    have lengths := congrArg List.length same
    rcases List.append_eq_append_iff.1 whole with ⟨more, rfl, behind'⟩ | ⟨more, rfl, behind'⟩
    · -- the body would hold the quote behind the path
      rcases List.cons_eq_append_iff.1 behind' with ⟨rfl, ends⟩ | ⟨more', rfl, _⟩
      · rw [List.append_nil] at plain
        exact ⟨plain, (List.cons.inj ends).2⟩
      · have quoted := plain '\'' (by simp)
        simp [isPlain] at quoted
    · -- the body would be shorter than the path that it is
      rcases List.cons_eq_append_iff.1 behind' with ⟨rfl, ends⟩ | ⟨more', rfl, _⟩
      · rw [List.append_nil]
        exact ⟨plain, (List.cons.inj ends).2.symm⟩
      · have one := (length_unitsOf '\'').1
        simp only [units_append, units_cons, List.length_append] at lengths
        omega
  · right
    simp only [units_cons, units_append, List.length_append] at less
    omega

theorem readStatement_source {name : String} (binding : Image.isBinding name = true)
    {source rest after : List Char}
    (read : readStatement (importStatement name.toList source ++ rest) =
      some ((name, units source), after)) :
    (∀ c ∈ source, isPlain '\'' c = true) ∧ after = rest ∨
      (units after).length < (units rest).length := by
  rw [readStatement_importStatement binding] at read
  obtain ⟨⟨value, behind⟩, literal, ends⟩ := Option.bind_eq_some_iff.1 read
  obtain ⟨after', ended, same⟩ := Option.map_eq_some_iff.1 ends
  obtain ⟨⟨_, rfl⟩, rfl⟩ : (name = name ∧ value = units source) ∧ after' = after := by
    simpa using same
  obtain rfl := List.isPrefixOf?_eq_some_iff_append_eq.1 ended
  rcases readString_source literal with ⟨plain, same⟩ | less
  · exact .inl ⟨plain, List.append_cancel_left same⟩
  · right
    simp only [units_append, List.length_append] at less
    omega

/-- Statements are read back as they were written if and only if nothing in a path is special. -/
theorem readStatements_importStatements_iff {entries : List (String × List Char)}
    (binding : ∀ entry ∈ entries, Image.isBinding entry.1 = true) :
    readStatements (importStatements entries) =
        some (entries.map fun entry => (entry.1, units entry.2)) ↔
      ∀ entry ∈ entries, ∀ c ∈ entry.2, isPlain '\'' c = true := by
  induction entries with
  | nil => simp [importStatements, readStatements]
  | cons entry rest ih =>
    obtain ⟨first, others⟩ := List.forall_mem_cons.1 binding
    rw [importStatements_cons, List.map_cons, List.forall_mem_cons, ← ih others]
    constructor
    · intro read
      obtain ⟨after, readFirst, readRest⟩ := readStatements_eq_cons read
      rcases readStatement_source first readFirst with ⟨plain, rfl⟩ | less
      · exact ⟨plain, readRest⟩
      · -- too little would be left for the other statements
        have bound := weight_readStatements_le readRest
        rw [← length_importStatements] at bound
        omega
    · rintro ⟨plain, readRest⟩
      rw [readStatements_of_readStatement (readStatement_plain first plain _), readRest]
      rfl

end Script

end JsxPages
