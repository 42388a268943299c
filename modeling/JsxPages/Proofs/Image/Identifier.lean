import JsxPages.Image.Reference
import JsxPages.Proofs.Name.Numbered
import JsxPages.Proofs.Options
import JsxPages.Proofs.Text.Ascii
import JsxPages.Proofs.Text.Words
/-!
# Identifiers that can be bound

The identifier of an image is a small letter with letters and digits behind it, whatever the file is
called, and it is no reserved word. A number behind such an identifier leaves it one: no reserved
word ends in a digit. So all images are imported under names that a module may bind.
-/

namespace JsxPages.Image

open Options

/-- Whether a name is a small letter with letters and digits behind it and no reserved word. -/
def isBinding (name : String) : Bool :=
  hasShape Char.isLower Char.isAlphanum name && !reservedWords.contains name

/-! ### From file names -/

theorem isAlphanum_of_mem_joinWords {words : List (List Char)}
    (alphanumeric : ∀ word ∈ words, ∀ c ∈ word, c.isAlphanum = true) :
    ∀ c ∈ joinWords words, c.isAlphanum = true := by
  cases words with
  | nil => simp [joinWords]
  | cons first rest =>
    obtain ⟨inFirst, inRest⟩ := List.forall_mem_cons.1 alphanumeric
    intro c mem
    rcases List.mem_append.1 mem with lowered | capital
    · obtain ⟨d, inWord, rfl⟩ := List.mem_map.1 lowered
      rcases Text.toLower_of_isAlphanum (inFirst d inWord) with lower | digit
      · exact Text.isAlphanum_of_isLower lower
      · exact Text.isAlphanum_of_isDigit digit
    · obtain ⟨word, isWord, inWord⟩ := List.mem_flatMap.1 capital
      cases word with
      | nil => cases inWord
      | cons d tail =>
        obtain ⟨head, others⟩ := List.forall_mem_cons.1 (inRest _ isWord)
        rcases List.mem_cons.1 inWord with rfl | later
        · exact Text.isAlphanum_toUpper head
        · exact others c later

theorem head_joinWords {words : List (List Char)} {c : Char} {rest : List Char}
    (alphanumeric : ∀ word ∈ words, ∀ c ∈ word, c.isAlphanum = true)
    (solid : ∀ word ∈ words, word ≠ []) (joined : joinWords words = c :: rest) :
    c.isLower = true ∨ c.isDigit = true := by
  cases words with
  | nil => cases joined
  | cons first others =>
    cases first with
    | nil => exact absurd rfl (solid [] List.mem_cons_self)
    | cons d tail =>
      obtain ⟨rfl, _⟩ := List.cons.inj joined
      exact Text.toLower_of_isAlphanum
        (alphanumeric _ List.mem_cons_self d List.mem_cons_self)

theorem hasShape_plainIdentifier (filename : String) :
    hasShape Char.isLower Char.isAlphanum (plainIdentifier filename) = true := by
  have alphanumeric : ∀ word ∈ Text.wordsWhere (fun c => !c.isAlphanum) (stem filename.toList),
      ∀ c ∈ word, c.isAlphanum = true := by
    intro word isWord c mem
    simpa using Text.separates_of_mem_wordsWhere isWord mem
  have solid : ∀ word ∈ Text.wordsWhere (fun c => !c.isAlphanum) (stem filename.toList),
      word ≠ [] := by
    intro word isWord
    simpa using (List.mem_filter.1 isWord).2
  have all := isAlphanum_of_mem_joinWords alphanumeric
  unfold plainIdentifier
  split
  · decide
  · rename_i c rest joined
    rw [joined] at all
    split
    · exact hasShape_append (by decide) (by simpa using all)
    · rename_i notDigit
      refine hasShape_iff.2 ⟨⟨c, rest, String.toList_ofList, ?_⟩, by simpa using all⟩
      exact (head_joinWords alphanumeric solid joined).resolve_right notDigit

theorem isBinding_identifier (filename : String) : isBinding (identifier filename) = true := by
  have shape := hasShape_plainIdentifier filename
  rw [isBinding, Bool.and_eq_true, identifier]
  split
  · refine ⟨hasShape_append shape (List.all_eq_true.1 (by decide)), ?_⟩
    have none : ∀ word ∈ reservedWords, "Img".toList.isSuffixOf word.toList = false := by decide
    simp only [Bool.not_eq_true', List.contains_eq_mem, decide_eq_false_iff_not]
    intro reserved
    have ends := none _ reserved
    rw [String.toList_append, Bool.eq_false_iff, ne_eq, List.isSuffixOf_iff_suffix] at ends
    exact ends (List.suffix_append _ _)
  · rename_i notReserved
    exact ⟨shape, by simpa using notReserved⟩

theorem isBinding_numbered {name : String} (binding : isBinding name = true) (number : Nat) :
    isBinding (name ++ Nat.repr number) = true := by
  have shape : hasShape Char.isLower Char.isAlphanum name = true :=
    (Bool.and_eq_true_iff.1 binding).1
  have digits : ∀ c ∈ (Nat.repr number).toList, c.isDigit = true :=
    fun c mem => Name.isDigit_of_mem_repr mem
  rw [isBinding, Bool.and_eq_true]
  refine ⟨hasShape_append shape fun c mem => Text.isAlphanum_of_isDigit (digits c mem), ?_⟩
  have none : ∀ word ∈ reservedWords, word.toList.getLast?.any Char.isDigit = false := by decide
  simp only [Bool.not_eq_true', List.contains_eq_mem, decide_eq_false_iff_not]
  intro reserved
  -- the last character of the name is the last digit of the number
  have some : (Nat.repr number).toList ≠ [] := fun empty =>
    Nat.repr_ne_empty (String.toList_eq_nil_iff.1 empty)
  have last := none _ reserved
  rw [String.toList_append, List.getLast?_append, List.getLast?_eq_some_getLast some,
    Option.some_or, Option.any_some, digits _ (List.getLast_mem some)] at last
  cases last

theorem isBinding_fresh (filename : String) (taken : List String) :
    isBinding (Name.fresh (identifier filename) taken) = true := by
  rcases Name.fresh_cases (identifier filename) taken with same | ⟨number, same⟩
  · rw [same]
    exact isBinding_identifier filename
  · rw [same]
    exact isBinding_numbered (isBinding_identifier filename) number

/-! ### In a table -/

namespace Imports

/-- All identifiers can be bound. -/
def Bindable (imports : Imports) : Prop :=
  ∀ identifier ∈ imports.identifiers, isBinding identifier = true

theorem bindable_empty : Bindable {} := by
  intro identifier mem
  cases mem

theorem Bindable.register {imports : Imports} (bindable : Bindable imports) (filename : String) :
    Bindable (imports.register filename).2 := by
  unfold Imports.register
  split
  · exact bindable
  · intro identifier mem
    rw [Imports.identifiers, List.map_append, List.mem_append] at mem
    rcases mem with known | new
    · exact bindable identifier known
    · obtain rfl := List.mem_singleton.1 new
      exact isBinding_fresh _ _

/-- The table behind the registration of some files, one after the other. -/
def ofFiles (files : List String) : Imports :=
  files.foldl (fun imports filename => (imports.register filename).2) {}

theorem bindable_ofFiles (files : List String) : (ofFiles files).Bindable := by
  suffices ∀ imports : Imports, imports.Bindable →
      (files.foldl (fun imports filename => (imports.register filename).2) imports).Bindable from
    this {} bindable_empty
  induction files with
  | nil => exact fun _ bindable => bindable
  | cons filename files ih => exact fun imports bindable => ih _ (bindable.register filename)

theorem Bindable.refer {imports : Imports} (bindable : Bindable imports) (filename : String)
    (otherwise : Reference) : Bindable (refer imports filename otherwise).2 := by
  unfold Image.refer
  split
  · exact bindable.register filename
  · exact bindable

theorem Bindable.resolve {imports : Imports} (bindable : Bindable imports) (assets : AssetMap)
    (imagesDir value : String) : Bindable (resolve assets imagesDir imports value).2 := by
  simp only [Image.resolve]
  split
  · exact bindable
  split
  · exact bindable.refer _ _
  split
  · exact bindable.refer _ _
  · exact bindable

end Imports

end JsxPages.Image
