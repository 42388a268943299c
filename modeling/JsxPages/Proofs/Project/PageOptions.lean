import JsxPages.Proofs.Options
import JsxPages.Proofs.Project.Bindings
import JsxPages.Proofs.Project.Programs
import JsxPages.Proofs.Project.Rendered
import JsxPages.Proofs.Tables.Shown
/-!
# The options of the pages of a project

A page is converted with the options of the project, but for the stem of its classes, which has a
hyphen and the slug of the page behind it. A slug is made of the letters and digits of a component
name, so a stem can be extended by it if and only if it is one (`isClassStem_extended`). What was
accepted for the project is therefore accepted for each of its pages, and of the ways in which a
page can fail (`CanFail`) the options are none.
-/

namespace JsxPages.Project

open Options

/-! ### Stems -/

theorem isAlphanum_of_mem_slug {source : Source}
    (plain : ∀ c ∈ source.component.toList, c.isAlphanum = true) {c : Char}
    (mem : c ∈ source.slug.toList) : c.isAlphanum = true := by
  rw [Source.slug, Text.lower, String.toList_ofList] at mem
  obtain ⟨d, inComponent, rfl⟩ := List.mem_map.1 mem
  rcases Text.toLower_of_isAlphanum (plain d inComponent) with lower | digit
  · exact Text.isAlphanum_of_isLower lower
  · exact Text.isAlphanum_of_isDigit digit

/-- A stem with more behind it is one exactly if it was one in front of the hyphen. -/
theorem isClassStem_extended {stem more : String}
    (plain : ∀ c ∈ more.toList, c.isAlphanum = true) :
    isClassStem (stem ++ "-" ++ more) = true ↔ isClassStem stem = true := by
  constructor
  · intro shape
    obtain ⟨⟨c, rest, begins, first⟩, all⟩ := hasShape_iff.1 shape
    have inStem : ∀ d ∈ stem.toList, d ∈ (stem ++ "-" ++ more).toList := by
      intro d mem
      simp [mem]
    refine hasShape_iff.2 ⟨?_, fun d mem => all d (inStem d mem)⟩
    cases whole : stem.toList with
    | nil =>
      -- with nothing in front, the text would begin with the hyphen
      rw [String.toList_append, String.toList_append, whole] at begins
      obtain ⟨rfl, _⟩ := List.cons.inj begins
      cases first
    | cons d rest =>
      rw [String.toList_append, String.toList_append, whole] at begins
      obtain ⟨rfl, _⟩ := List.cons.inj begins
      exact ⟨d, rest, rfl, first⟩
  · intro shape
    refine hasShape_append (hasShape_append shape (List.all_eq_true.1 (by decide))) ?_
    intro c mem
    simp [plain c mem]

/-- The options of a page are accepted if and only if those of its project are. -/
theorem check_pageOptions_iff {config : Config} {source : Source}
    (plain : ∀ c ∈ source.component.toList, c.isAlphanum = true) :
    (config.pageOptions source).check = .ok () ↔ config.baseOptions.check = .ok () := by
  have stem : isClassStem (config.pageOptions source).classStem = true ↔
      isClassStem config.baseOptions.classStem = true :=
    isClassStem_extended fun _ => isAlphanum_of_mem_slug plain
  rw [check_eq_ok, check_eq_ok, stem]
  rfl

/-! ### Failures -/

/-- The ways in which building a page can fail. -/
inductive CanFail (config : Config) (source : Source) : BuildError → Prop where
  | unreadable (fault : ReadFault) : CanFail config source (.unreadable source.path fault)
  | option {error : OptionError} (refused : (config.pageOptions source).check = .error error) :
    CanFail config source (.option error)
  | invalidModule : CanFail config source .invalidModule
  | invalidStylesheet : CanFail config source .invalidStylesheet
  | unwritable : CanFail config source .unwritable

section
variable {σ : Type} {disk : Disk (StateM σ)} {tools : Tools} {config : Config} {assets : AssetMap}
  {source : Source} {state left : σ} {error : BuildError}

theorem canFail_of_render {html : String}
    (failed : render tools config assets source html = .error error) :
    CanFail config source error := by
  rcases render_cases tools config assets source html with
    ⟨refused, checked, same⟩ | ⟨_, same⟩ | ⟨_, same⟩
  · rw [same] at failed
    cases failed
    exact .option checked
  · rw [same] at failed
    cases failed
    exact .invalidModule
  · rw [same] at failed
    cases failed

theorem canFail_of_writeStylesheet {rendered : Rendered}
    (failed : outcome (writeStylesheet disk tools config rendered) state = (.error error, left)) :
    CanFail config source error := by
  rw [writeStylesheet] at failed
  split at failed
  · cases failed
  · split at failed
    · cases failed
      exact .invalidStylesheet
    · rw [error_of_writeOrFail failed]
      exact .unwritable

theorem canFail_of_buildPage
    (failed : outcome (buildPage disk tools config assets source) state = (.error error, left)) :
    CanFail config source error := by
  rw [buildPage] at failed
  rcases error_of_bind failed with unread | ⟨html, _, _, failed⟩
  · obtain ⟨fault, rfl⟩ := error_of_readText unread
    exact .unreadable fault
  rcases error_of_bind failed with refused | ⟨rendered, _, _, failed⟩
  · rw [outcome_result] at refused
    exact canFail_of_render (congrArg Prod.fst refused)
  rcases error_of_bind failed with unwritten | ⟨_, _, _, failed⟩
  · rw [error_of_writeOrFail unwritten]
    exact .unwritable
  rcases error_of_bind failed with unstyled | ⟨_, _, _, failed⟩
  · exact canFail_of_writeStylesheet unstyled
  · cases failed

end

/-- **Options that are accepted once are accepted for every page.** If the options of a project are
accepted, then so are those of each of its pages, whatever files are below the pages directory. No
page fails for its options then, on any disk and with any tools, and the classes of its markup are
words without white space. -/
theorem page_options_accepted (config : Config) (accepted : config.baseOptions.check = .ok ())
    (files : List (List String)) :
    ∀ source ∈ Source.discover config.pagesDir files,
      (config.pageOptions source).check = .ok () ∧
      (∀ {σ : Type} (disk : Disk (StateM σ)) (tools : Tools) (assets : AssetMap) (state : σ)
        (error : OptionError),
        (outcome (buildPage disk tools config assets source) state).1 ≠ .error (.option error)) ∧
      ∀ (assets : AssetMap) (html : String), ∀ name ∈ classNames config assets source html,
        Text.words name = [name] := by
  intro source mem
  obtain ⟨taken, place, _, _, rfl⟩ := exists_ofPlace_of_discover mem
  have plain : ∀ c ∈ (Source.ofPlace config.pagesDir taken place).component.toList,
      c.isAlphanum = true := fun c => isAlphanum_of_mem_component
  have page := (check_pageOptions_iff plain).2 accepted
  refine ⟨page, fun disk tools assets state error failed => ?_, fun assets html name isClass => ?_⟩
  · cases canFail_of_buildPage (Prod.ext failed rfl) with
    | option refused =>
      rw [page] at refused
      cases refused
  · rw [classNames_eq] at isClass
    obtain ⟨number, _, rfl⟩ := List.mem_map.1 isClass
    exact Document.Pass.words_numbered (Document.Pass.isClassStem_of_check page) _

/-- Two paths of one component that begins with a digit, and one without letters and digits. -/
theorem page_options_accepted_unusualPaths :
    let config : Config := { options := { classStem := "v_1" } }
    let sources := Source.discover "pages" [["1", "a.html"], ["1-a.html"], ["é.html"]]
    config.baseOptions.check = .ok () ∧ sources.map (·.slug) = ["page1a", "page1a2", "page"] ∧
      ∀ source ∈ sources, (config.pageOptions source).check = .ok () ∧
        ∀ name ∈ classNames config {} source "<i style='--a:1'>", Text.words name = [name] := by
  intro config sources
  have accepted : config.baseOptions.check = .ok () := by decide
  have pages : [["1", "a.html"], ["1-a.html"], ["é.html"]].filter Source.isPage =
      [["1", "a.html"], ["1-a.html"], ["é.html"]] := by decide +kernel
  have inOrder : [["1", "a.html"], ["1-a.html"], ["é.html"]].mergeSort Source.notAfter =
      [["1", "a.html"], ["1-a.html"], ["é.html"]] :=
    List.mergeSort_of_pairwise (by decide +kernel)
  have slugs : sources.map (·.slug) = ["page1a", "page1a2", "page"] := by
    simp only [sources, Source.discover, pages, inOrder]
    decide +kernel
  refine ⟨accepted, slugs, fun source mem => ?_⟩
  obtain ⟨page, _, words⟩ := page_options_accepted config accepted _ source mem
  exact ⟨page, words {} _⟩

end JsxPages.Project
