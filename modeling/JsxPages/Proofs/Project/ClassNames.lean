import JsxPages.Project.Build
import JsxPages.Proofs.Tables.Starts
/-!
# Class names of the pages of a project

Stylesheets apply to the whole site, so the classes of a page should be its own. A page numbers its
classes from one behind the stem of the project and its slug (`classNames_eq`), and slugs have no say
in the numbers. So two pages share a class if and only if they have one slug and both have a class
(`classNames_meet_iff`).

The slug is the component name in lower case. Component names differ from page to page, but some may
differ only in their letter case: then the slugs are the same, and the classes meet.
-/

namespace JsxPages

namespace Document

/-- A document on its own numbers its classes from one, all behind the stem that it is given. -/
theorem classNames_convertTokens (setting : Setting) (tokens : List Html.Token) :
    let table := (convertTokens setting tokens {}).2.classes
    table.classes.map (·.1) =
      (List.range table.size).map fun place =>
        Name.numbered setting.options.classStem (place + 1) := by
  intro table
  have threaded : Threaded setting {} _ (convertTokens setting tokens {}).2 :=
    Pass.threaded_run setting {} tokens
  refine List.ext_getElem (by simp [ClassTable.size]) fun place bound _ => ?_
  rw [List.length_map] at bound
  rw [List.getElem_map, List.getElem_map, List.getElem_range]
  obtain ⟨stem, name⟩ := (threaded.sound Tables.sound_empty).classes place _
    (List.getElem?_eq_getElem bound)
  obtain ⟨start, _, step, _, mints⟩ := threaded.exists_start_of_class (List.getElem_mem bound)
  -- the class was minted behind the stem, and the number is its place
  obtain ⟨sameStem, _⟩ := Name.numbered_inj.1 (name.symm.trans mints.backed.2.1)
  rw [← sameStem]
  exact name

end Document

namespace Project

def classNames (config : Config) (assets : AssetMap) (source : Source) (html : String) :
    List String :=
  (Document.convert { assets, options := config.pageOptions source } html).tables.classes.classes.map
    (·.1)

variable {tools : Tools} {config : Config} {assets : AssetMap} {source : Source} {html : String}

/-- The stylesheet of a page has the rules of these classes, and without classes there is none. -/
theorem classes_of_render {rendered : Rendered}
    (done : render tools config assets source html = .ok rendered) :
    rendered.classes = (classNames config assets source html).length ∧
    rendered.stylesheet =
      if classNames config assets source html = [] then none
      else some (source.component ++ ".css",
        (Document.convert { assets, options := config.pageOptions source } html).stylesheet) := by
  simp only [render] at done
  simp only [classNames, List.map_eq_nil_iff, List.length_map]
  generalize Document.convert { assets, options := config.pageOptions source } html = conversion
    at done ⊢
  split at done
  · cases done
  cases classes : conversion.tables.classes.classes with
  | nil =>
    have none : (conversion.tables.classes.size != 0) = false := by simp [ClassTable.size, classes]
    simp only [none, Bool.false_eq_true, if_false] at done
    split at done
    · cases done
    · obtain rfl := Except.ok.inj done
      exact ⟨congrArg List.length classes, rfl⟩
  | cons first rest =>
    have some : (conversion.tables.classes.size != 0) = true := by simp [ClassTable.size, classes]
    simp only [some, if_true] at done
    split at done
    · cases done
    · obtain rfl := Except.ok.inj done
      exact ⟨congrArg List.length classes, rfl⟩

theorem classNames_eq (config : Config) (assets : AssetMap) (source : Source) (html : String) :
    classNames config assets source html =
      (List.range (classNames config assets source html).length).map fun place =>
        Name.numbered (config.options.classStem ++ "-" ++ source.slug) (place + 1) := by
  have named := Document.classNames_convertTokens
    { assets, options := config.pageOptions source } (Html.tokens html)
  have size : (classNames config assets source html).length =
      (Document.convert { assets, options := config.pageOptions source } html).tables.classes.size :=
    List.length_map _
  rw [size]
  exact named

/-- Two pages share a class if and only if they have one slug and both have a class. -/
theorem exists_shared_iff (config : Config) (assets : AssetMap) (first second : Source)
    (html other : String) :
    (∃ name ∈ classNames config assets first html,
        name ∈ classNames config assets second other) ↔
      first.slug = second.slug ∧ classNames config assets first html ≠ [] ∧
        classNames config assets second other ≠ [] := by
  constructor
  · rintro ⟨name, inFirst, inSecond⟩
    refine ⟨?_, List.ne_nil_of_mem inFirst, List.ne_nil_of_mem inSecond⟩
    rw [classNames_eq] at inFirst inSecond
    obtain ⟨place, _, rfl⟩ := List.mem_map.1 inFirst
    obtain ⟨another, _, same⟩ := List.mem_map.1 inSecond
    have stems := (Name.numbered_inj.1 same).1
    exact ((String.append_right_inj _).1 stems).symm
  · rintro ⟨slugs, hasFirst, hasSecond⟩
    have one (source : Source) (html : String) (has : classNames config assets source html ≠ []) :
        Name.numbered (config.options.classStem ++ "-" ++ source.slug) 1 ∈
          classNames config assets source html := by
      rw [classNames_eq]
      exact List.mem_map.2 ⟨0, List.mem_range.2 (List.length_pos_iff.2 has), rfl⟩
    refine ⟨_, one first html hasFirst, ?_⟩
    rw [slugs]
    exact one second other hasSecond

/-! ### Component names -/

theorem components_ofPlaces (pagesDir : String) (taken : List String)
    (places : List (List String)) :
    (∀ source ∈ Source.ofPlaces pagesDir taken places, source.component ∉ taken) ∧
      (Source.ofPlaces pagesDir taken places).Pairwise (·.component ≠ ·.component) := by
  induction places generalizing taken with
  | nil => exact ⟨by simp [Source.ofPlaces], .nil⟩
  | cons place rest ih =>
    obtain ⟨new, distinct⟩ := ih ((Source.ofPlace pagesDir taken place).component :: taken)
    rw [Source.ofPlaces]
    constructor
    · intro source mem
      rcases List.mem_cons.1 mem with rfl | later
      · exact Name.fresh_notMem _ _
      · exact fun isTaken => new source later (List.mem_cons_of_mem _ isTaken)
    · refine List.pairwise_cons.2 ⟨fun source later same => ?_, distinct⟩
      exact new source later (same ▸ List.mem_cons_self)

/-- **Pages share classes only if their components differ in nothing but letter case.** Of all pages
that are found for a project, no two have one component; and whatever two pages hold, they share a
class if and only if their components are the same in lower case and both have a class. -/
theorem classNames_meet_iff (config : Config) (assets : AssetMap) (files : List (List String)) :
    (Source.discover config.pagesDir files).Pairwise fun first second =>
      first.component ≠ second.component ∧
      ∀ html other,
        (∃ name ∈ classNames config assets first html,
          name ∈ classNames config assets second other) ↔
        Text.lower first.component = Text.lower second.component ∧
          classNames config assets first html ≠ [] ∧
          classNames config assets second other ≠ [] := by
  refine (components_ofPlaces config.pagesDir [] _).2.imp fun {first second} differ => ?_
  exact ⟨differ, fun html other => exists_shared_iff config assets first second html other⟩

/-- Two paths with components that differ in one capital, and one class for both pages. -/
theorem classNames_meet_letterCase :
    let sources := Source.discover "pages" [["log-in.html"], ["login.html"]]
    sources.map (·.component) = ["LogIn", "Login"] ∧
      ∀ source ∈ sources,
        classNames {} {} source "<i style='--a:1'>" = ["custom-var-login-1"] := by
  have pages : [["log-in.html"], ["login.html"]].filter Source.isPage =
      [["log-in.html"], ["login.html"]] := by decide +kernel
  have inOrder : [["log-in.html"], ["login.html"]].mergeSort Source.notAfter =
      [["log-in.html"], ["login.html"]] := List.mergeSort_of_pairwise (by decide +kernel)
  rw [Source.discover, pages, inOrder]
  decide +kernel

end Project

end JsxPages
