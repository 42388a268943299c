import JsxPages.Proofs.Document.Normalized
import JsxPages.Proofs.Project.Pages
import JsxPages.Proofs.Script.ImportStatements
/-!
# The names that a page module binds

A module binds a name for each image that it imports, and its component. The names of images come
from files and begin with a small letter; the name of the component comes from a path and begins
with a capital. So only names of one kind can be the same at first, and those are told apart by the
numbers behind them, which are looked for until one is new (`Name.isFirstFree_fresh`).
-/

namespace JsxPages.Project

open Options

/-! ### Component names -/

/-- Whether a name is a capital with letters and digits behind it. -/
def isComponent (name : String) : Bool :=
  hasShape Char.isUpper Char.isAlphanum name

theorem isUpper_toUpper {c : Char} (alphanumeric : c.isAlphanum = true)
    (notDigit : c.isDigit = false) : c.toUpper.isUpper = true :=
  Text.of_isAlphanum (P := fun c => c.isDigit = false → c.toUpper.isUpper = true) (by decide)
    alphanumeric notDigit

/-- The first word of a path gives the first character, a capital or a digit. -/
theorem head_pascalCase {path rest : List Char} {c : Char}
    (pascal : Page.pascalCase path = c :: rest) : c.isUpper = true ∨ c.isDigit = true := by
  have plain : ∀ word ∈ Text.splitWhere (fun c => !c.isAlphanum) path,
      ∀ d ∈ word, d.isAlphanum = true := by
    intro word isWord d mem
    simpa using Text.separates_of_mem_splitWhere isWord mem
  rw [Page.pascalCase] at pascal
  generalize Text.splitWhere (fun c => !c.isAlphanum) path = words at plain pascal
  induction words with
  | nil => cases pascal
  | cons word words ih =>
    obtain ⟨inWord, inWords⟩ := List.forall_mem_cons.1 plain
    cases word with
    -- between two separators there is no word, and nothing is written for it
    | nil => exact ih inWords pascal
    | cons d letters =>
      obtain ⟨rfl, _⟩ := List.cons.inj pascal
      have alphanumeric := inWord d List.mem_cons_self
      cases digit : d.isDigit with
      | false => exact .inl (isUpper_toUpper alphanumeric digit)
      | true =>
        right
        exact Text.of_isAlphanum (P := fun c => c.isDigit = true → c.toUpper.isDigit = true)
          (by decide) alphanumeric digit

theorem isComponent_componentName (path : String) :
    isComponent (Page.componentName path) = true := by
  have all := @isAlphanum_of_mem_componentName path
  unfold Page.componentName at all ⊢
  split
  · decide
  rename_i c rest pascal
  simp only [pascal] at all
  split at all
  · rename_i digit
    rw [if_pos digit]
    refine hasShape_append (by decide) ?_
    intro d mem
    exact all (by rw [String.toList_append]; exact List.mem_append_right _ mem)
  · rename_i notDigit
    rw [if_neg notDigit]
    refine hasShape_iff.2 ⟨⟨c, rest, String.toList_ofList, ?_⟩, fun d mem => all mem⟩
    exact (head_pascalCase pascal).resolve_right notDigit

theorem isComponent_ofPlace (pagesDir : String) (taken place : List String) :
    isComponent (Source.ofPlace pagesDir taken place).component = true := by
  have shape := isComponent_componentName (Source.stem place)
  change isComponent (Name.fresh _ taken) = true
  rcases Name.fresh_cases (Page.componentName (Source.stem place)) taken with same | ⟨number, same⟩
  · rwa [same]
  · rw [same]
    refine hasShape_append shape ?_
    intro c mem
    exact Text.isAlphanum_of_isDigit (Name.isDigit_of_mem_repr mem)

/-- No reserved word begins with a capital. -/
theorem isBindable_of_isComponent {name : String} (component : isComponent name = true) :
    Script.isBindable name = true := by
  obtain ⟨⟨c, rest, begins, upper⟩, all⟩ := hasShape_iff.1 component
  have small : ∀ word ∈ Image.reservedWords, word.toList.head?.any Char.isUpper = false := by decide
  have notReserved : name ∉ Image.reservedWords := by
    intro reserved
    have first := small name reserved
    rw [begins, List.head?_cons, Option.any_some, upper] at first
    cases first
  have first : Name.isIdentifierStart c = true := by
    simp [Name.isIdentifierStart, Text.isAlpha_of_isUpper upper]
  rw [begins] at all
  rw [Script.isBindable, Name.isIdentifier, begins]
  refine Bool.and_eq_true_iff.2 ⟨Bool.and_eq_true_iff.2 ⟨first, List.all_eq_true.2 ?_⟩, ?_⟩
  · intro d mem
    exact Script.isIdentifierChar_of_isAlphanum (all d (List.mem_cons_of_mem _ mem))
  · simpa using notReserved

theorem ne_of_isComponent {name identifier : String} (component : isComponent name = true)
    (binding : Image.isBinding identifier = true) : identifier ≠ name := by
  rintro rfl
  obtain ⟨⟨c, _, begins, upper⟩, all⟩ := hasShape_iff.1 component
  obtain ⟨⟨d, _, also, lower⟩, _⟩ := hasShape_iff.1 (Bool.and_eq_true_iff.1 binding).1
  rw [begins] at all also
  obtain ⟨rfl, _⟩ := List.cons.inj also
  have apart := Text.of_isAlphanum (P := fun c => c.isUpper = true → c.isLower = false) (by decide)
    (all c List.mem_cons_self) upper
  rw [lower] at apart
  cases apart

/-! ### Images -/

/-- A document on its own names its images differently, each as a module may. -/
theorem identifiers_convert (setting : Document.Setting) (html : String) :
    let images := (Document.convert setting html).tables.images
    images.Bindable ∧ images.identifiers.Nodup := by
  intro images
  have threaded : Document.Threaded setting {} _ (Document.convert setting html).tables :=
    Document.Pass.threaded_run setting {} (Html.tokens html)
  have sound : (Document.convert setting html).tables.Sound := threaded.sound Tables.sound_empty
  exact ⟨(threaded.bindable Image.Imports.bindable_empty).2, sound.images.identifiers⟩

theorem isFirstFree_register {imports : Image.Imports} {filename : String}
    (unknown : imports.find? filename = none) :
    Name.IsFirstFree (Image.identifier filename) imports.identifiers
      (imports.register filename).1 := by
  simp only [Image.Imports.register, unknown]
  exact Name.isFirstFree_fresh _ _

/-! ### Modules -/

/-- What a module binds: a name for each image, and the component that it exports. -/
def bindings (component : String) (conversion : Document.Conversion) : List String :=
  conversion.tables.images.identifiers ++ [component]

theorem nodup_bindings {component : String} {conversion : Document.Conversion}
    (isComponent : isComponent component = true)
    (bindable : conversion.tables.images.Bindable)
    (distinct : conversion.tables.images.identifiers.Nodup) :
    (bindings component conversion).Nodup := by
  rw [bindings, ← List.concat_eq_append]
  refine distinct.concat fun mem => ?_
  exact ne_of_isComponent isComponent (bindable component mem) rfl

/-- **A module never binds a name twice.** Whatever files are below the pages directory and whatever
the pages hold: no two components are the same, each is a capital with letters and digits behind it,
each image of a page is imported under a small letter with letters and digits behind it that is no
reserved word, and the module of a page binds each of its names once and may bind it. Both searches
for a name end, with the first form of it that is not taken. -/
theorem bindings_distinct (config : Config) (assets : AssetMap) (files : List Place) :
    let sources := Source.discover config.pagesDir files
    sources.Pairwise (·.component ≠ ·.component) ∧
    (∀ source ∈ sources, isComponent source.component = true ∧ ∀ html,
      let conversion := Document.convert { assets, options := config.pageOptions source } html
      (∀ identifier ∈ conversion.tables.images.identifiers, Image.isBinding identifier = true) ∧
      (bindings source.component conversion).Nodup ∧
      ∀ name ∈ bindings source.component conversion, Script.isBindable name = true) ∧
    (∀ taken place,
      Name.IsFirstFree (Page.componentName (Source.stem place)) taken
        (Source.ofPlace config.pagesDir taken place).component) ∧
    ∀ (imports : Image.Imports) filename, imports.find? filename = none →
      Name.IsFirstFree (Image.identifier filename) imports.identifiers
        (imports.register filename).1 := by
  intro sources
  refine ⟨(components_ofPlaces config.pagesDir [] _).2, fun source mem => ?_, fun taken place => ?_,
    fun imports filename unknown => isFirstFree_register unknown⟩
  · have component : isComponent source.component = true := by
      obtain ⟨taken, place, _, _, rfl⟩ := exists_ofPlace_of_discover mem
      exact isComponent_ofPlace config.pagesDir taken place
    refine ⟨component, fun html => ?_⟩
    obtain ⟨bindable, distinct⟩ :=
      identifiers_convert { assets, options := config.pageOptions source } html
    refine ⟨bindable, nodup_bindings component bindable distinct, fun name isBound => ?_⟩
    rcases List.mem_append.1 isBound with image | own
    · exact Script.isBindable_of_isBinding (bindable name image)
    · rw [List.mem_singleton.1 own]
      exact isBindable_of_isComponent component
  · exact Name.isFirstFree_fresh _ _

/-- Two pages with one name in camel case, and two images with a reserved word for a name. -/
theorem bindings_distinct_logIn :
    let sources := Source.discover "pages" [["log", "in.html"], ["log-in.html"]]
    let html := "<img src='/new.png'><img src='/-new.svg'>"
    sources.map (·.component) = ["LogIn", "LogIn2"] ∧
    ∀ source ∈ sources,
      let conversion := Document.convert { options := ({} : Config).pageOptions source } html
      bindings source.component conversion = ["newImg", "newImg2", source.component] ∧
      (bindings source.component conversion).Nodup := by
  intro sources html
  have pages : [["log", "in.html"], ["log-in.html"]].filter Source.isPage =
      [["log", "in.html"], ["log-in.html"]] := by decide +kernel
  have inOrder : [["log", "in.html"], ["log-in.html"]].mergeSort Source.notAfter =
      [["log", "in.html"], ["log-in.html"]] := List.mergeSort_of_pairwise (by decide +kernel)
  have found : sources = Source.ofPlaces "pages" [] [["log", "in.html"], ["log-in.html"]] := by
    simp only [sources, Source.discover, pages, inOrder]
  have images : ∀ source ∈ sources,
      (Document.convert { options := ({} : Config).pageOptions source }
        html).tables.images.identifiers = ["newImg", "newImg2"] := by
    rw [found]
    decide +kernel
  refine ⟨by rw [found]; decide +kernel, ?_⟩
  intro source mem conversion
  obtain ⟨_, modules, _⟩ := bindings_distinct {} {} [["log", "in.html"], ["log-in.html"]]
  obtain ⟨_, distinct, _⟩ := (modules source mem).2 html
  exact ⟨congrArg (· ++ [source.component]) (images source mem), distinct⟩

end JsxPages.Project
