import JsxPages.Proofs.Css.Block
import JsxPages.Proofs.Text.Ascii
/-!
# Rules for classes, read

A rule is a selector, here that of a single class, with a block of declarations behind it; a
stylesheet is read as one rule after the other (`readRules`). Rules for classes are read as they were
written if and only if all of their declarations are closed: a rule that is read as it was written
ends where it was written to end, and the next one is read from there (`readRules_rules_iff`).
-/

namespace JsxPages.Css

open Html (isSpace)

/-! ### Reading -/

def inClassName (c : Char) : Bool :=
  c.isAlphanum || c == '-' || c == '_'

/-- The class in a selector that is nothing but a class. -/
def className? : List Char → Option String
  | '.' :: name => if name ≠ [] ∧ name.all inClassName then some (String.ofList name) else none
  | _ => none

/-- Reads a rule for a class: its name and its declarations, and what follows. -/
def readRule (text : List Char) : Option ((String × List (String × String)) × List Char) :=
  (Text.cutFirst '\x7b' text).bind fun (selector, body) =>
    (className? (Text.trimWhere isSpace selector)).bind fun name =>
      (readBlock body).map fun (declarations, rest) => ((name, declarations), rest)

theorem length_readRule_lt {text rest : List Char} {entry : String × List (String × String)}
    (read : readRule text = some (entry, rest)) : rest.length < text.length := by
  obtain ⟨⟨selector, body⟩, cut, inner⟩ := Option.bind_eq_some_iff.1 read
  obtain ⟨name, _, inBlock⟩ := Option.bind_eq_some_iff.1 inner
  obtain ⟨⟨declarations, behind⟩, block, same⟩ := Option.map_eq_some_iff.1 inBlock
  obtain ⟨_, rfl⟩ := Prod.mk.inj same
  obtain ⟨rfl, _⟩ := Text.cutFirst_eq_some cut
  have bound := length_readBlock_lt block
  simp only [List.length_append, List.length_cons]
  omega

/-- Reads a stylesheet of rules for classes. -/
def readRules (text : List Char) : Option (List (String × List (String × String))) :=
  if text.all isSpace then
    some []
  else
    match h : readRule text with
    | none => none
    | some (entry, rest) =>
      have : rest.length < text.length := length_readRule_lt h
      (readRules rest).map (entry :: ·)
termination_by text.length

theorem readRules_of_readRule {text rest : List Char} {entry : String × List (String × String)}
    (notBlank : text.all isSpace = false) (read : readRule text = some (entry, rest)) :
    readRules text = (readRules rest).map (entry :: ·) := by
  rw [readRules, if_neg (by simp [notBlank])]
  split
  · rename_i none
    rw [read] at none
    cases none
  · rename_i same
    rw [read] at same
    cases same
    rfl

theorem readRules_eq_cons {text : List Char} {entry : String × List (String × String)}
    {entries : List (String × List (String × String))}
    (read : readRules text = some (entry :: entries)) :
    ∃ rest, readRule text = some (entry, rest) ∧ readRules rest = some entries := by
  rw [readRules] at read
  split at read
  · cases read
  split at read
  · cases read
  · rename_i first rest readFirst
    obtain ⟨others, readRest, same⟩ := Option.map_eq_some_iff.1 read
    obtain ⟨rfl, rfl⟩ := List.cons.inj same
    exact ⟨rest, readFirst, readRest⟩

/-! ### Writing -/

/-- The rule for a class. -/
def rule (entry : String × List (String × String)) : List Char :=
  '.' :: (entry.1.toList ++ " \x7b".toList ++ block entry.2)

/-- Rules for classes, each with a line end behind it. -/
def rules : List (String × List (String × String)) → List Char
  | [] => []
  | entry :: entries => rule entry ++ '\n' :: rules entries

/-- Whether a text is the name of a class. -/
def isClassName (name : String) : Bool :=
  !name.isEmpty && name.toList.all inClassName

/-! ### Reading back -/

theorem plain_of_inClassName {c : Char} (inName : inClassName c = true) :
    isSpace c = false ∧ c ≠ '\x7b' := by
  simp only [inClassName, Bool.or_eq_true, beq_iff_eq] at inName
  rcases inName with (alphanumeric | rfl) | rfl
  · exact Text.of_isAlphanum (P := fun c => isSpace c = false ∧ c ≠ '\x7b') (by decide)
      alphanumeric
  · decide
  · decide

/-- The class of a rule is read off it, wherever its block ends. -/
theorem readRule_rule {blanks : List Char} (spaces : ∀ c ∈ blanks, isSpace c = true)
    {entry : String × List (String × String)} (named : isClassName entry.1 = true)
    (rest : List Char) :
    readRule (blanks ++ (rule entry ++ rest)) =
      (readBlock (block entry.2 ++ rest)).map fun (declarations, rest) =>
        ((entry.1, declarations), rest) := by
  obtain ⟨notEmpty, all⟩ := Bool.and_eq_true_iff.1 named
  have inName : ∀ c ∈ entry.1.toList, inClassName c = true := List.all_eq_true.1 all
  have whole : blanks ++ (rule entry ++ rest) =
      (blanks ++ ('.' :: entry.1.toList ++ " ".toList)) ++
        '\x7b' :: (block entry.2 ++ rest) := by
    simp [rule]
  have free : '\x7b' ∉ blanks ++ ('.' :: entry.1.toList ++ " ".toList) := by
    simp only [List.mem_append, List.mem_cons, not_or]
    refine ⟨fun inBlanks => ?_, ⟨by decide, fun mem => ?_⟩, by decide⟩
    · exact absurd (spaces _ inBlanks) (by decide)
    · exact (plain_of_inClassName (inName _ mem)).2 rfl
  have trimmed : Text.trimWhere isSpace ('.' :: entry.1.toList) = '.' :: entry.1.toList := by
    refine Text.trimWhere_of_none (List.forall_mem_cons.2 ⟨by decide, fun c mem => ?_⟩)
    exact (plain_of_inClassName (inName c mem)).1
  have oneSpace : ∀ c ∈ " ".toList, isSpace c = true := List.all_eq_true.1 (by decide)
  have notNil : entry.1.toList ≠ [] := by
    intro none
    rw [String.toList_eq_nil_iff.1 none] at notEmpty
    cases notEmpty
  have isName : className? ('.' :: entry.1.toList) = some entry.1 := by
    rw [className?, if_pos ⟨notNil, all⟩, String.ofList_toList]
  rw [whole, readRule, Text.cutFirst_append free, Option.bind_some]
  simp only [Text.trimWhere_append_left spaces, Text.trimWhere_append_right oneSpace, trimmed,
    isName, Option.bind_some]

/-- Rules for classes are read as they were written if and only if all their declarations are
closed. -/
theorem readRules_rules_iff {entries : List (String × List (String × String))}
    (named : ∀ entry ∈ entries, isClassName entry.1 = true)
    (custom : ∀ entry ∈ entries, ∀ written ∈ entry.2, IsCustom written)
    {blanks : List Char} (spaces : ∀ c ∈ blanks, isSpace c = true) :
    readRules (blanks ++ rules entries) = some entries ↔
      ∀ entry ∈ entries, ∀ written ∈ entry.2, isClosed (declaration written) = true := by
  induction entries generalizing blanks with
  | nil =>
    have all : blanks.all isSpace = true := List.all_eq_true.2 spaces
    rw [rules, List.append_nil, readRules, if_pos all]
    simp
  | cons entry entries ih =>
    obtain ⟨isName, names⟩ := List.forall_mem_cons.1 named
    obtain ⟨customs, others⟩ := List.forall_mem_cons.1 custom
    have lineEnd : ∀ c ∈ ['\n'], isSpace c = true := List.all_eq_true.1 (by decide)
    have next := ih names others lineEnd
    have first := readRule_rule spaces isName ('\n' :: rules entries)
    rw [rules, List.forall_mem_cons, ← next]
    constructor
    · intro read
      obtain ⟨rest, readFirst, readRest⟩ := readRules_eq_cons read
      rw [first] at readFirst
      obtain ⟨⟨declarations, behind⟩, inBlock, same⟩ := Option.map_eq_some_iff.1 readFirst
      obtain ⟨rfl, rfl⟩ : declarations = entry.2 ∧ behind = rest := by
        obtain ⟨sameEntry, rfl⟩ := Prod.mk.inj same
        exact ⟨congrArg Prod.snd sameEntry, rfl⟩
      -- the block ends where it was written to end, and the other rules are read from there
      obtain ⟨closed, rfl⟩ := closed_of_readBlock customs inBlock
      exact ⟨closed, readRest⟩
    · rintro ⟨closed, readRest⟩
      rw [readBlock_block customs closed, Option.map_some] at first
      have notBlank : (blanks ++ (rule entry ++ '\n' :: rules entries)).all isSpace = false := by
        simp [rule, isSpace]
      rw [readRules_of_readRule notBlank first]
      exact congrArg (Option.map (entry :: ·)) readRest

end JsxPages.Css
