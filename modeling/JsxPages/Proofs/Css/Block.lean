import JsxPages.Html.Character
import JsxPages.Proofs.Text.Cuts
import JsxPages.Proofs.Text.Words
/-!
# Blocks of declarations, read

A block is read up to the brace that closes it and cut at the semicolons outside quotes, parentheses
and braces (`splitBlock`); what stands between is a name and a value (`readBlock`). A backslash takes
the next character out of all this.

A block of declarations is read as these if and only if each of them is closed: if no semicolon and
no closing brace in it is outside, and if all that is open in it is closed at its end
(`readBlock_block`, `closed_of_readBlock`). For what is read as a declaration holds the same
characters as the declaration, white space aside. So where a declaration is cut short or runs on,
another one is read: a semicolon or a brace more or less cannot be hidden (`eq_of_solid`).
-/

namespace JsxPages.Css

open Html (isSpace)

/-! ### Where a reader stands -/

/-- Which quote a reader is in, whether a backslash is in front of it, and by which characters the
parentheses and braces around it will be closed, the innermost first. -/
structure Scan where
  quote : Option Char := none
  escaped : Bool := false
  awaited : List Char := []
  deriving DecidableEq, Repr

def closer? (c : Char) : Option Char :=
  if c = '(' then some ')' else if c = '\x7b' then some '\x7d' else none

/-- Where a reader stands behind a character. -/
def Scan.next (scan : Scan) (c : Char) : Scan :=
  if scan.escaped then { scan with escaped := false }
  else if c = '\\' then { scan with escaped := true }
  else
    match scan.quote with
    | some quote => if c = quote then { scan with quote := none } else scan
    | none =>
      if c = '\'' ∨ c = '"' then { scan with quote := some c }
      else if scan.awaited.head? = some c then { scan with awaited := scan.awaited.tail }
      else { scan with awaited := (closer? c).toList ++ scan.awaited }

/-- Where a reader stands behind a text in which no declaration ends. -/
def through (scan : Scan) : List Char → Option Scan
  | [] => some scan
  | c :: rest =>
    if scan = {} ∧ (c = ';' ∨ c = '\x7d') then none else through (scan.next c) rest

/-- Whether a text is one declaration or part of one, whatever follows. -/
def isClosed (text : List Char) : Bool :=
  through {} text == some {}

theorem through_append (scan : Scan) (text more : List Char) :
    through scan (text ++ more) = (through scan text).bind (through · more) := by
  induction text generalizing scan with
  | nil => rfl
  | cons c text ih =>
    rw [List.cons_append, through, through]
    split
    · rfl
    · exact ih _

theorem through_spaces {blanks : List Char} (spaces : ∀ c ∈ blanks, isSpace c = true) :
    through {} blanks = some {} := by
  induction blanks with
  | nil => rfl
  | cons c blanks ih =>
    obtain ⟨first, others⟩ := List.forall_mem_cons.1 spaces
    have plain : ∀ d, isSpace d = true →
        ¬ (d = ';' ∨ d = '\x7d') ∧ Scan.next {} d = {} := by
      intro d space
      simp only [isSpace, Bool.or_eq_true, beq_iff_eq] at space
      rcases space with (((rfl | rfl) | rfl) | rfl) | rfl <;> decide
    rw [through, if_neg fun ends => (plain c first).1 ends.2, (plain c first).2]
    exact ih others

/-! ### Declarations -/

/-- The parts of a block between the semicolons outside, and what follows the brace that closes the
block. -/
def splitBlock (scan : Scan) : List Char → Option (List (List Char) × List Char)
  | [] => none
  | c :: rest =>
    if scan = {} ∧ c = '\x7d' then some ([[]], rest)
    else if scan = {} ∧ c = ';' then
      (splitBlock scan rest).map fun (parts, rest) => ([] :: parts, rest)
    else (splitBlock (scan.next c) rest).map fun (parts, rest) => (Text.consFirst c parts, rest)

/-- The name and the value in a part of a block. -/
def readDeclaration? (part : List Char) : Option (String × String) :=
  (Text.cutFirst ':' part).map fun (name, value) =>
    (String.ofList (Text.trimWhere isSpace name), String.ofList (Text.trimWhere isSpace value))

/-- Reads a block behind its opening brace: its declarations, and what follows. -/
def readBlock (text : List Char) : Option (List (String × String) × List Char) :=
  (splitBlock {} text).bind fun (parts, rest) =>
    ((parts.filter (!·.all isSpace)).mapM readDeclaration?).map fun declarations =>
      (declarations, rest)

theorem length_splitBlock_lt {scan : Scan} {text rest : List Char} {parts : List (List Char)}
    (split' : splitBlock scan text = some (parts, rest)) : rest.length < text.length := by
  induction text generalizing scan parts with
  | nil => cases split'
  | cons c text ih =>
    rw [List.length_cons]
    rw [splitBlock] at split'
    split at split'
    · obtain ⟨_, rfl⟩ := Prod.mk.inj (Option.some.inj split')
      omega
    split at split'
    · obtain ⟨⟨others, behind⟩, inner, same⟩ := Option.map_eq_some_iff.1 split'
      obtain ⟨_, rfl⟩ := Prod.mk.inj same
      have bound := ih inner
      omega
    · obtain ⟨⟨others, behind⟩, inner, same⟩ := Option.map_eq_some_iff.1 split'
      obtain ⟨_, rfl⟩ := Prod.mk.inj same
      have bound := ih inner
      omega

theorem length_readBlock_lt {text rest : List Char} {declarations : List (String × String)}
    (read : readBlock text = some (declarations, rest)) : rest.length < text.length := by
  obtain ⟨⟨parts, behind⟩, split', inner⟩ := Option.bind_eq_some_iff.1 read
  obtain ⟨_, _, same⟩ := Option.map_eq_some_iff.1 inner
  obtain ⟨_, rfl⟩ := Prod.mk.inj same
  exact length_splitBlock_lt split'

/-- A text in which no declaration ends is read into the first part. -/
theorem splitBlock_append {scan after : Scan} {text : List Char}
    (passes : through scan text = some after) (more : List Char) :
    splitBlock scan (text ++ more) =
      (splitBlock after more).map fun (parts, rest) => (text.foldr Text.consFirst parts, rest) := by
  induction text generalizing scan with
  | nil =>
    obtain rfl := Option.some.inj passes
    simp
  | cons c text ih =>
    rw [through] at passes
    split at passes
    · cases passes
    · rename_i goesOn
      rw [List.cons_append, splitBlock, if_neg fun ends => goesOn ⟨ends.1, .inr ends.2⟩,
        if_neg fun ends => goesOn ⟨ends.1, .inl ends.2⟩, ih passes, Option.map_map]
      rfl

theorem foldr_consFirst (text part : List Char) (parts : List (List Char)) :
    text.foldr Text.consFirst (part :: parts) = (text ++ part) :: parts := by
  induction text with
  | nil => rfl
  | cons c text ih => rw [List.foldr_cons, ih, Text.consFirst, List.cons_append]

/-- A closed text with a semicolon behind it is a part of its own. -/
theorem splitBlock_closed {text : List Char} (closed : through {} text = some {})
    (more : List Char) :
    splitBlock {} (text ++ ';' :: more) =
      (splitBlock {} more).map fun (parts, rest) => (text :: parts, rest) := by
  rw [splitBlock_append closed, splitBlock, if_neg (by decide), if_pos (by decide), Option.map_map]
  refine congrArg (Option.map · _) (funext fun read => ?_)
  simp [foldr_consFirst]

/-- The first part of a block ends at a semicolon or at the end of the block, and is closed there. -/
theorem splitBlock_eq_some {scan : Scan} {text rest : List Char} {parts : List (List Char)}
    (split' : splitBlock scan text = some (parts, rest)) :
    ∃ part others, parts = part :: others ∧ through scan part = some {} ∧
      ((∃ behind, text = part ++ ';' :: behind ∧ splitBlock {} behind = some (others, rest)) ∨
        text = part ++ '\x7d' :: rest ∧ others = []) := by
  induction text generalizing scan parts with
  | nil => cases split'
  | cons c text ih =>
    rw [splitBlock] at split'
    split at split'
    · rename_i ends
      obtain ⟨rfl, rfl⟩ := ends
      obtain ⟨rfl, rfl⟩ := Prod.mk.inj (Option.some.inj split')
      exact ⟨[], [], rfl, rfl, .inr ⟨rfl, rfl⟩⟩
    rename_i noBrace
    split at split'
    · rename_i ends
      obtain ⟨rfl, rfl⟩ := ends
      obtain ⟨⟨others, behind⟩, inner, same⟩ := Option.map_eq_some_iff.1 split'
      obtain ⟨rfl, rfl⟩ := Prod.mk.inj same
      exact ⟨[], others, rfl, rfl, .inl ⟨text, rfl, inner⟩⟩
    · rename_i noSemicolon
      obtain ⟨⟨others, behind⟩, inner, same⟩ := Option.map_eq_some_iff.1 split'
      obtain ⟨rfl, rfl⟩ := Prod.mk.inj same
      obtain ⟨part, more, rfl, passes, ends⟩ := ih inner
      refine ⟨c :: part, more, rfl, ?_, ?_⟩
      · rw [through, if_neg, passes]
        rintro ⟨outside, rfl | rfl⟩
        · exact noSemicolon ⟨outside, rfl⟩
        · exact noBrace ⟨outside, rfl⟩
      · rcases ends with ⟨after, rfl, next⟩ | ⟨rfl, rfl⟩
        · exact .inl ⟨after, rfl, next⟩
        · exact .inr ⟨rfl, rfl⟩

/-! ### White space -/

/-- The characters of a text that are not white space. -/
def solid (text : List Char) : List Char :=
  text.filter (!isSpace ·)

theorem solid_append (text more : List Char) : solid (text ++ more) = solid text ++ solid more :=
  List.filter_append _ _

theorem solid_of_spaces {blanks : List Char} (spaces : ∀ c ∈ blanks, isSpace c = true) :
    solid blanks = [] := by
  rw [solid, List.filter_eq_nil_iff]
  intro c mem
  simp [spaces c mem]

theorem solid_trimWhere (text : List Char) : solid (Text.trimWhere isSpace text) = solid text := by
  obtain ⟨before, after, whole, spacesBefore, spacesAfter⟩ := Text.exists_trimWhere isSpace text
  have solids := congrArg solid whole
  rw [solid_append, solid_append, solid_of_spaces spacesBefore, solid_of_spaces spacesAfter,
    List.nil_append, List.append_nil] at solids
  exact solids.symm

/-- Two texts that a text begins with are the same if they differ in white space at most and end in
front of something solid. -/
theorem eq_of_solid {first second rest more : List Char} {c d : Char}
    (cSolid : isSpace c = false) (dSolid : isSpace d = false)
    (solids : solid first = solid second) (same : first ++ c :: rest = second ++ d :: more) :
    first = second ∧ c = d ∧ rest = more := by
  have longer : ∀ (text between : List Char) (c : Char), isSpace c = false →
      solid (text ++ c :: between) ≠ solid text := by
    intro text between c isSolid more
    have lengths := congrArg List.length more
    simp [solid, isSolid] at lengths
  rcases List.append_eq_append_iff.1 same with ⟨between, rfl, ends⟩ | ⟨between, rfl, ends⟩
  · rcases List.cons_eq_append_iff.1 ends with ⟨rfl, tails⟩ | ⟨others, rfl, _⟩
    · obtain ⟨rfl, rfl⟩ := List.cons.inj tails
      exact ⟨by simp, rfl, rfl⟩
    · exact absurd solids.symm (longer first others c cSolid)
  · rcases List.cons_eq_append_iff.1 ends with ⟨rfl, tails⟩ | ⟨others, rfl, _⟩
    · obtain ⟨rfl, rfl⟩ := List.cons.inj tails
      exact ⟨by simp, rfl, rfl⟩
    · exact absurd solids (longer second others d dSolid)

/-! ### Declarations as written -/

def declaration (written : String × String) : List Char :=
  written.1.toList ++ ": ".toList ++ written.2.toList

/-- Declarations in a block, each on a line of its own, with the brace that closes the block. -/
def block : List (String × String) → List Char
  | [] => "\n\x7d".toList
  | first :: rest => "\n  ".toList ++ declaration first ++ ';' :: block rest

/-- A custom property whose name and value have no white space around them. -/
structure IsCustom (written : String × String) : Prop where
  begins : written.1.toList.head? = some '-'
  noColon : ':' ∉ written.1.toList
  name : Text.trimWhere isSpace written.1.toList = written.1.toList
  value : Text.trimWhere isSpace written.2.toList = written.2.toList

theorem spaces_newLine : ∀ c ∈ "\n  ".toList, isSpace c = true :=
  List.all_eq_true.1 (by decide)

/-- A declaration is read as its name and its value. -/
theorem readDeclaration?_declaration {written : String × String} (custom : IsCustom written) :
    readDeclaration? ("\n  ".toList ++ declaration written) = some written := by
  have whole : "\n  ".toList ++ declaration written =
      ("\n  ".toList ++ written.1.toList) ++ ':' :: (" ".toList ++ written.2.toList) := by
    simp [declaration]
  have free : ':' ∉ "\n  ".toList ++ written.1.toList := by
    rw [List.mem_append]
    rintro (inBlanks | inName)
    · revert inBlanks
      decide
    · exact custom.noColon inName
  have oneSpace : ∀ c ∈ " ".toList, isSpace c = true := List.all_eq_true.1 (by decide)
  rw [whole, readDeclaration?, Text.cutFirst_append free, Option.map_some]
  simp only [Text.trimWhere_append_left spaces_newLine, custom.name,
    Text.trimWhere_append_left oneSpace, custom.value,
    String.ofList_toList]

/-- What is read as a declaration has its characters, white space aside. -/
theorem solid_of_readDeclaration? {part : List Char} {written : String × String}
    (read : readDeclaration? part = some written) : solid part = solid (declaration written) := by
  obtain ⟨⟨name, value⟩, cut, rfl⟩ := Option.map_eq_some_iff.1 read
  obtain ⟨rfl, _⟩ := Text.cutFirst_eq_some cut
  simp only [declaration, String.toList_ofList, solid_append, solid_trimWhere, List.append_assoc]
  rfl

/-! ### Blocks as written -/

/-- The first part of a block is one declaration. -/
theorem readBlock_part {part : List Char} {written : String × String}
    (closed : through {} part = some {}) (notBlank : part.all isSpace = false)
    (read : readDeclaration? part = some written) (more : List Char) :
    readBlock (part ++ ';' :: more) =
      (readBlock more).map fun (declarations, rest) => (written :: declarations, rest) := by
  rw [readBlock, splitBlock_closed closed, readBlock]
  cases splitBlock {} more with
  | none => rfl
  | some found =>
    obtain ⟨parts, rest⟩ := found
    simp only [Option.map_some, Option.bind_some, List.filter_cons, notBlank, Bool.not_false,
      if_true, List.mapM_cons, read, Option.bind_eq_bind, Option.pure_def]
    cases (parts.filter (!·.all isSpace)).mapM readDeclaration? <;> rfl

theorem isClosed_iff {text : List Char} : isClosed text = true ↔ through {} text = some {} :=
  beq_iff_eq

theorem through_line (text : List Char) :
    through {} ("\n  ".toList ++ text) = through {} text := by
  rw [through_append, through_spaces spaces_newLine, Option.bind_some]

/-- The first declaration of a block that begins with the name of a custom property is in the first
part. -/
theorem readBlock_eq_cons {text after : List Char} {first : String × String}
    {others : List (String × String)} (begins : (solid text).head? = some '-')
    (read : readBlock text = some (first :: others, after)) :
    ∃ part, through {} part = some {} ∧ readDeclaration? part = some first ∧
      ((∃ behind, text = part ++ ';' :: behind ∧ readBlock behind = some (others, after)) ∨
        text = part ++ '\x7d' :: after) := by
  obtain ⟨⟨parts, behind⟩, split', inner⟩ := Option.bind_eq_some_iff.1 read
  obtain ⟨all, mapped, same⟩ := Option.map_eq_some_iff.1 inner
  obtain ⟨rfl, rfl⟩ := Prod.mk.inj same
  obtain ⟨part, more, rfl, passes, ends⟩ := splitBlock_eq_some split'
  have notBlank : part.all isSpace = false := by
    by_contra blank
    -- a blank part would end in front of the hyphen, at a semicolon or at a brace
    have spaces : ∀ c ∈ part, isSpace c = true := List.all_eq_true.1 (by simpa using blank)
    rcases ends with ⟨tail, rfl, _⟩ | ⟨rfl, _⟩
    · rw [solid_append, solid_of_spaces spaces] at begins
      cases begins
    · rw [solid_append, solid_of_spaces spaces] at begins
      cases begins
  rw [List.filter_cons_of_pos (by simp [notBlank]), List.mapM_cons] at mapped
  simp only [Option.bind_eq_bind, Option.bind_eq_some_iff, Option.pure_def, Option.some.injEq,
    List.cons.injEq] at mapped
  obtain ⟨written, readFirst, declarations, readOthers, rfl, rfl⟩ := mapped
  refine ⟨part, passes, readFirst, ends.imp ?_ And.left⟩
  rintro ⟨tail, whole, next⟩
  refine ⟨tail, whole, ?_⟩
  simp only [readBlock, next, Option.bind_some, readOthers, Option.map_some]

theorem readBlock_block {declarations : List (String × String)}
    (custom : ∀ written ∈ declarations, IsCustom written)
    (closed : ∀ written ∈ declarations, isClosed (declaration written) = true)
    (rest : List Char) : readBlock (block declarations ++ rest) = some (declarations, rest) := by
  induction declarations with
  | nil => rfl
  | cons written others ih =>
    obtain ⟨isCustom, customs⟩ := List.forall_mem_cons.1 custom
    obtain ⟨first, closeds⟩ := List.forall_mem_cons.1 closed
    have passes : through {} ("\n  ".toList ++ declaration written) = some {} := by
      rw [through_line]
      exact isClosed_iff.1 first
    have notBlank : ("\n  ".toList ++ declaration written).all isSpace = false := by
      simp [declaration, isSpace]
    rw [block, List.append_assoc, List.cons_append,
      readBlock_part passes notBlank (readDeclaration?_declaration isCustom), ih customs closeds]
    rfl

/-- A block that is read as the declarations that it is written for has closed declarations, and
ends where it was written to end. -/
theorem closed_of_readBlock {declarations : List (String × String)}
    (custom : ∀ written ∈ declarations, IsCustom written) {rest after : List Char}
    (read : readBlock (block declarations ++ rest) = some (declarations, after)) :
    (∀ written ∈ declarations, isClosed (declaration written) = true) ∧ after = rest := by
  induction declarations with
  | nil =>
    obtain ⟨_, rfl⟩ := Prod.mk.inj (Option.some.inj read)
    exact ⟨by simp, rfl⟩
  | cons written others ih =>
    obtain ⟨isCustom, customs⟩ := List.forall_mem_cons.1 custom
    rw [block, List.append_assoc, List.cons_append] at read
    have begins : (solid ("\n  ".toList ++ declaration written ++
        ';' :: (block others ++ rest))).head? = some '-' := by
      obtain ⟨name, named⟩ := List.head?_eq_some_iff.1 isCustom.begins
      rw [declaration, named]
      rfl
    obtain ⟨part, passes, readFirst, ends⟩ := readBlock_eq_cons begins read
    have solids : solid ("\n  ".toList ++ declaration written) = solid part := by
      rw [solid_append, solid_of_spaces spaces_newLine, List.nil_append,
        solid_of_readDeclaration? readFirst]
    have semicolon : isSpace ';' = false := by decide
    -- the part and the line end in front of something solid, so they are the same
    rcases ends with ⟨behind, whole, readRest⟩ | whole
    · obtain ⟨rfl, _, rfl⟩ := eq_of_solid semicolon semicolon solids whole
      obtain ⟨closed, same⟩ := ih customs readRest
      rw [through_line] at passes
      exact ⟨List.forall_mem_cons.2 ⟨isClosed_iff.2 passes, closed⟩, same⟩
    · obtain ⟨_, brace, _⟩ := eq_of_solid semicolon (by decide) solids whole
      cases brace

end JsxPages.Css
