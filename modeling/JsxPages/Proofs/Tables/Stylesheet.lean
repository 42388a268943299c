import JsxPages.Options
import JsxPages.Proofs.Attribute.Values
import JsxPages.Proofs.Css.Rules
import JsxPages.Proofs.Name.Numbered
import JsxPages.Proofs.Options
import JsxPages.Tables
/-!
# The stylesheet of a class table

The names of classes hold letters, digits, hyphens and underscores, and the declarations of a class
are custom properties: the name has no colon, and neither the name nor the value has white space
around it. Apart from this anything may stand in them. They are written as they are, so the
stylesheet is read as the table if and only if no declaration ends early or runs on
(`readRules_stylesheet_iff`).
-/

namespace JsxPages

open Html (isSpace)

/-! ### Custom properties -/

theorem isBlank_of_isSpace {c : Char} (space : isSpace c = true) : Text.isBlank c = true := by
  simp only [isSpace, Bool.or_eq_true, beq_iff_eq] at space
  rcases space with (((rfl | rfl) | rfl) | rfl) | rfl <;> decide

namespace Style

theorem isCustom_of_readDeclaration? {written : List Char} {name value : String}
    (read : readDeclaration? written = some (.custom name value)) :
    Css.IsCustom (name, value) := by
  have trimmed : ∀ part : List Char,
      Text.trimWhere isSpace (Text.trim (String.ofList part)).toList =
        (Text.trim (String.ofList part)).toList := by
    intro part
    rw [Text.trim, String.toList_ofList]
    exact Text.trimWhere_trimWhere (fun c => isBlank_of_isSpace) _
  obtain ⟨before, after, cut, _, ⟨isCustom, _, same⟩ | regular⟩ := readDeclaration?_cases read
  · obtain ⟨rfl, rfl⟩ := Declaration.custom.inj same
    obtain ⟨_, free⟩ := Text.cutFirst_eq_some cut
    obtain ⟨front, behind, whole, _⟩ := Text.exists_trimWhere Text.isBlank before
    refine ⟨?_, fun colon => ?_, trimmed before, trimmed after⟩
    · obtain ⟨more, begins⟩ := List.isPrefixOf_iff_prefix.1 isCustom
      rw [← begins]
      rfl
    · rw [Text.trim, String.toList_ofList, String.toList_ofList] at colon
      rw [whole] at free
      exact free (List.mem_append_left _ (List.mem_append_right _ colon))
  · obtain ⟨same, _⟩ := readRegular?_eq_some regular
    cases same

theorem isCustom_ofText (css : String) :
    ∀ entry ∈ (ofText css).customProperties, Css.IsCustom entry := by
  intro entry mem
  have declared := (declaredIn_ofText css).customProperties entry mem
  obtain ⟨written, _, read⟩ := List.mem_filterMap.1 declared
  exact isCustom_of_readDeclaration? read

end Style

namespace ClassTable

/-! ### Tables -/

/-- The table with a class for each of some styles, given with what the name begins with. -/
def mintAll (mints : List (String × String)) : ClassTable :=
  mints.foldl
    (fun table mint => (table.mint mint.1 (Style.ofText mint.2).customProperties).2) {}

/-- The classes have names of classes and declare custom properties. -/
structure Writable (table : ClassTable) : Prop where
  named : ∀ entry ∈ table.classes, Css.isClassName entry.1 = true
  custom : ∀ entry ∈ table.classes, ∀ written ∈ entry.2, Css.IsCustom written

theorem isClassName_numbered {stem : String} (valid : Options.isClassStem stem = true)
    (number : Nat) : Css.isClassName (Name.numbered stem number) = true := by
  obtain ⟨⟨c, rest, begins, _⟩, all⟩ := Options.hasShape_iff.1 valid
  rw [Css.isClassName, Bool.and_eq_true, List.all_eq_true]
  constructor
  · have some : (Name.numbered stem number).toList ≠ [] := by simp [Name.numbered]
    rw [Bool.not_eq_true', ← Bool.not_eq_true, String.isEmpty_iff]
    intro empty
    exact some (String.toList_eq_nil_iff.2 empty)
  · intro d mem
    rw [Name.numbered, String.toList_append, String.toList_append] at mem
    rcases List.mem_append.1 mem with inFront | digit
    · rcases List.mem_append.1 inFront with inStem | hyphen
      · exact all d inStem
      · rw [List.mem_singleton.1 hyphen]
        decide
    · simp [Css.inClassName, Text.isAlphanum_of_isDigit (Name.isDigit_of_mem_repr digit)]

theorem Writable.mint {table : ClassTable} (writable : table.Writable) {stem : String}
    (valid : Options.isClassStem stem = true) (css : String) :
    Writable (table.mint stem (Style.ofText css).customProperties).2 := by
  constructor
  · refine List.forall_mem_append.2 ⟨writable.named, List.forall_mem_singleton.2 ?_⟩
    exact isClassName_numbered valid _
  · refine List.forall_mem_append.2 ⟨writable.custom, List.forall_mem_singleton.2 ?_⟩
    exact Style.isCustom_ofText css

theorem writable_mintAll {mints : List (String × String)}
    (valid : ∀ mint ∈ mints, Options.isClassStem mint.1 = true) : (mintAll mints).Writable := by
  suffices ∀ table : ClassTable, table.Writable → Writable (mints.foldl
      (fun table mint => (table.mint mint.1 (Style.ofText mint.2).customProperties).2) table) by
    exact this {} ⟨nofun, nofun⟩
  induction mints with
  | nil => exact fun _ writable => writable
  | cons mint mints ih =>
    obtain ⟨first, others⟩ := List.forall_mem_cons.1 valid
    intro table writable
    exact ih others _ (writable.mint first mint.2)

/-! ### Stylesheets -/

theorem block_eq (declarations : List (String × String)) :
    '\n' :: ((String.join (declarations.map declarationText)).toList ++ ['\x7d']) =
      Css.block declarations := by
  induction declarations with
  | nil => rfl
  | cons written others ih =>
    rw [List.map_cons, String.join_cons, String.toList_append, Css.block, ← ih]
    simp [declarationText, Css.declaration]

theorem toList_ruleText (entry : String × List (String × String)) :
    (ruleText entry).toList = Css.rule entry ++ ['\n'] := by
  rw [Css.rule, ← block_eq]
  simp [ruleText]

theorem toList_stylesheet (table : ClassTable) :
    table.stylesheet.toList = Css.rules table.classes := by
  rw [stylesheet]
  induction table.classes with
  | nil => rfl
  | cons entry entries ih =>
    rw [List.map_cons, String.join_cons, String.toList_append, ih, toList_ruleText, Css.rules,
      List.append_assoc]
    rfl

/-- **A stylesheet is read as its table if all declarations are closed.** For the classes of any
styles under valid stems, a reader of rules that knows quotes, parentheses, braces and backslashes
finds the classes of the table in their order, each with its declarations, if and only if every
declaration is closed. -/
theorem readRules_stylesheet_iff (mints : List (String × String))
    (valid : ∀ mint ∈ mints, Options.isClassStem mint.1 = true) :
    let table := mintAll mints
    Css.readRules table.stylesheet.toList = some table.classes ↔
      ∀ entry ∈ table.classes, ∀ written ∈ entry.2,
        Css.isClosed (Css.declaration written) = true := by
  intro table
  have writable := writable_mintAll valid
  have nothing : ∀ c ∈ [], isSpace c = true := nofun
  rw [toList_stylesheet]
  exact Css.readRules_rules_iff writable.named writable.custom nothing

/-- Semicolons and braces inside parentheses, quotes and braces. -/
def nested : List (String × String) :=
  [("custom-var", "--a: url(x;y); --b: '\x7d'"), ("v", "--c: \x7bd: 1\x7d; --a:2;--a: 3")]

theorem readRules_stylesheet_nested :
    (∀ mint ∈ nested, Options.isClassStem mint.1 = true) ∧
      Css.readRules (mintAll nested).stylesheet.toList =
        some [("custom-var-1", [("--a", "url(x;y)"), ("--b", "'\x7d'")]),
          ("v-2", [("--c", "\x7bd: 1\x7d"), ("--a", "3")])] := by
  have valid : ∀ mint ∈ nested, Options.isClassStem mint.1 = true := by decide
  have closed : ∀ entry ∈ (mintAll nested).classes, ∀ written ∈ entry.2,
      Css.isClosed (Css.declaration written) = true := by decide +kernel
  exact ⟨valid, ((readRules_stylesheet_iff nested valid).2 closed).trans (by decide +kernel)⟩

/-- A brace ends a rule early: what follows is no rule, or one for a class that nobody minted. A
brace that is open takes the next rule into the declaration. -/
theorem readRules_stylesheet_brace :
    (mintAll [("v", "--x: \x7d")]).stylesheet = ".v-1 \x7b\n  --x: \x7d;\n\x7d\n" ∧
      Css.readRules (mintAll [("v", "--x: \x7d")]).stylesheet.toList = none ∧
      Css.readRules (mintAll [("v", "--x: 1\x7d.evil\x7b--y: 2")]).stylesheet.toList =
        some [("v-1", [("--x", "1")]), ("evil", [("--y", "2")])] ∧
      (Css.readRules (mintAll [("v", "--x: \x7b"),
        ("v", "--y: 1; --z: \x7d")]).stylesheet.toList).map (·.map (·.1)) = some ["v-1"] := by
  decide +kernel

end ClassTable

end JsxPages
