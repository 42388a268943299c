import JsxPages.Proofs.Project.ClassNames
import JsxPages.Proofs.Project.Steps
import JsxPages.Proofs.Text.Ascii
import Mathlib.Data.List.Induction
import Mathlib.Data.List.Nodup
/-!
# Pages and the files they are built to

A page is a file of the tree, so its path leads to its place (`locate_source`). It is built to a
module and perhaps a stylesheet, both directly below the modules directory and named after its
component (`placeOf_output`). Components differ from page to page, so no two pages write to one
place (`nodup_outputs`).
-/

namespace JsxPages.Project

/-! ### Component names -/

theorem isAlphanum_of_mem_pascalCase {path : List Char} {c : Char}
    (mem : c ∈ Page.pascalCase path) : c.isAlphanum = true := by
  obtain ⟨word, isWord, inWord⟩ := List.mem_flatMap.1 mem
  have plain : ∀ d ∈ word, d.isAlphanum = true := fun d mem => by
    simpa using Text.separates_of_mem_splitWhere isWord mem
  cases word with
  | nil => cases inWord
  | cons d rest =>
    obtain ⟨first, others⟩ := List.forall_mem_cons.1 plain
    rcases List.mem_cons.1 inWord with rfl | later
    · exact Text.isAlphanum_toUpper first
    · exact others c later

theorem isAlphanum_of_mem_componentName {path : String} {c : Char}
    (mem : c ∈ (Page.componentName path).toList) : c.isAlphanum = true := by
  have page : ∀ d ∈ "Page".toList, d.isAlphanum = true := List.all_eq_true.1 (by decide)
  unfold Page.componentName at mem
  split at mem
  · exact page c mem
  rename_i d rest pascal
  have word : c ∈ d :: rest → c.isAlphanum = true := fun mem =>
    isAlphanum_of_mem_pascalCase (pascal ▸ mem)
  split at mem
  · rw [String.toList_append] at mem
    rw [← String.toList_ofList (l := d :: rest)] at word
    exact (List.mem_append.1 mem).elim (page c) word
  · rw [String.toList_ofList] at mem
    exact word mem

theorem isAlphanum_of_mem_component {pagesDir : String} {taken place : List String} {c : Char}
    (mem : c ∈ (Source.ofPlace pagesDir taken place).component.toList) : c.isAlphanum = true := by
  change c ∈ (Name.fresh _ taken).toList at mem
  rcases Name.fresh_cases (Page.componentName (Source.stem place)) taken with same | ⟨number, same⟩
  · rw [same] at mem
    exact isAlphanum_of_mem_componentName mem
  · rw [same, String.toList_append] at mem
    rcases List.mem_append.1 mem with inBase | inNumber
    · exact isAlphanum_of_mem_componentName inBase
    · exact Text.isAlphanum_of_isDigit (Name.isDigit_of_mem_repr inNumber)

theorem exists_ofPlace {pagesDir : String} {taken : List String} {places : List Place}
    {source : Source} (mem : source ∈ Source.ofPlaces pagesDir taken places) :
    ∃ taken, ∃ place ∈ places, source = Source.ofPlace pagesDir taken place := by
  induction places generalizing taken with
  | nil => cases mem
  | cons place rest ih =>
    rcases List.mem_cons.1 mem with rfl | later
    · exact ⟨taken, place, List.mem_cons_self, rfl⟩
    · obtain ⟨taken, place, isPlace, same⟩ := ih later
      exact ⟨taken, place, List.mem_cons_of_mem _ isPlace, same⟩

theorem exists_ofPlace_of_discover {pagesDir : String} {files : List Place} {source : Source}
    (mem : source ∈ Source.discover pagesDir files) :
    ∃ taken, ∃ place ∈ files, place ≠ [] ∧ source = Source.ofPlace pagesDir taken place := by
  obtain ⟨taken, place, isPlace, same⟩ := exists_ofPlace mem
  obtain ⟨isFile, isPage⟩ := List.mem_filter.1 (List.mem_mergeSort.1 isPlace)
  refine ⟨taken, place, isFile, ?_, same⟩
  rintro rfl
  cases isPage

/-! ### Where pages are -/

/-- Every node has a name that paths can spell, and stands in a directory. -/
structure Tree.IsOrdinary (tree : Tree) : Prop where
  names : ∀ entry ∈ tree.nodes, ∀ name ∈ entry.1, IsName name
  parents : ∀ entry ∈ tree.nodes, tree.hasDir entry.1.dropLast = true

theorem Tree.IsOrdinary.hasDir_of_prefix {tree : Tree} (ordinary : tree.IsOrdinary)
    {base more : Place} (dir : tree.hasDir (base ++ more) = true) : tree.hasDir base = true := by
  induction more using List.reverseRecOn with
  | nil => rwa [List.append_nil] at dir
  | append_singleton more name ih =>
    apply ih
    rw [← List.append_assoc] at dir
    have some : base ++ more ++ [name] ≠ [] := by simp
    rw [hasDir, find?, if_neg some, beq_iff_eq] at dir
    obtain ⟨front, behind, whole, _⟩ := List.lookup_eq_some_iff.1 dir
    have parent := ordinary.parents _ (whole ▸ List.mem_append_right front List.mem_cons_self)
    rwa [List.dropLast_concat] at parent

theorem Tree.follow_names {tree : Tree} {base names : Place}
    (ordinary : ∀ name ∈ names, IsName name)
    (dirs : ∀ front, ∀ name, front ++ [name] <+: names → tree.hasDir (base ++ front) = true) :
    tree.follow base names = .ok (base ++ names) := by
  induction names generalizing base with
  | nil => rw [List.append_nil, follow]
  | cons name names ih =>
    obtain ⟨⟨some, notPoint, notUp, _⟩, others⟩ := List.forall_mem_cons.1 ordinary
    have here : tree.hasDir base = true := by
      have dir := dirs [] name (by simp)
      rwa [List.append_nil] at dir
    have inner : ∀ front next, front ++ [next] <+: names →
        tree.hasDir (base ++ [name] ++ front) = true := by
      intro front next start
      rw [List.append_assoc]
      exact dirs (name :: front) next ((List.prefix_cons_inj name).2 start)
    have below := ih others inner
    rw [follow, if_pos here, if_neg (by simp [some, notPoint]), if_neg notUp, below,
      List.append_assoc]
    rfl

/-- The path of a page leads to one of the nodes below the pages directory. -/
theorem exists_locate_source {config : Config} {tree : Tree} (ordinary : tree.IsOrdinary)
    {source : Source} (mem : source ∈ sourcesIn config tree) :
    ∃ base node, tree.locate source.path = .ok (base ++ source.place) ∧
      (base ++ source.place, node) ∈ tree.nodes := by
  obtain ⟨taken, place, isFile, some, rfl⟩ := exists_ofPlace_of_discover mem
  obtain ⟨base, node, leads, isNode⟩ := Tree.mem_filesBelow isFile
  have names : ∀ name ∈ place, IsName name := fun name mem =>
    ordinary.names _ isNode name (List.mem_append_right base mem)
  have dirs : ∀ front name, front ++ [name] <+: place → tree.hasDir (base ++ front) = true := by
    rintro front name ⟨more, rfl⟩
    have parent := ordinary.parents _ isNode
    have below : base ++ (front ++ [name] ++ more) = base ++ front ++ ([name] ++ more) := by simp
    rw [below, List.dropLast_append_of_ne_nil (by simp)] at parent
    exact ordinary.hasDir_of_prefix parent
  exact ⟨base, node, Tree.locate_join leads some names (Tree.follow_names names dirs), isNode⟩

/-- The path of a page leads to its place. -/
theorem locate_source {config : Config} {tree : Tree} (ordinary : tree.IsOrdinary) {source : Source}
    (mem : source ∈ sourcesIn config tree) :
    tree.locate source.path = .ok (placeOf tree.workingDir source.path) := by
  obtain ⟨base, node, leads, _⟩ := exists_locate_source ordinary mem
  rw [← Tree.placeOf_of_locate leads]
  exact leads

/-! ### Where pages are built to -/

/-- The module and the stylesheet of a page. -/
def outputs (config : Config) (workingDir : Place) (source : Source) : List Place :=
  [placeOf workingDir (Path.join config.modulesDir (source.component ++ ".jsx")),
    placeOf workingDir (Path.join config.modulesDir (source.component ++ ".css"))]

theorem isName_append {stem ending : String} (plain : ∀ c ∈ stem.toList, c.isAlphanum = true)
    (ends : ending = ".jsx" ∨ ending = ".css") : IsName (stem ++ ending) := by
  have long : ∀ short : String, short.toList.length < 4 → stem ++ ending ≠ short := by
    rintro short less rfl
    rw [String.toList_append, List.length_append] at less
    have four : ending.toList.length = 4 := by
      rcases ends with rfl | rfl <;> rfl
    omega
  refine ⟨long "" (by decide), long "." (by decide), long ".." (by decide), fun slash => ?_⟩
  rw [String.toList_append] at slash
  rcases List.mem_append.1 slash with inStem | inEnding
  · exact absurd (plain _ inStem) (by decide)
  · rcases ends with rfl | rfl <;> revert inEnding <;> decide

theorem modulesDir_ne_empty (config : Config) : config.modulesDir ≠ "" :=
  join_ne_empty (by decide) _

theorem placeOf_output (config : Config) (workingDir : Place) {name : String}
    (ordinary : IsName name) :
    placeOf workingDir (Path.join config.modulesDir name) =
      placeOf workingDir config.modulesDir ++ [name] := by
  have relative : name.toList.head? ≠ some '/' :=
    fun slash => ordinary.2.2.2 (List.mem_of_head? slash)
  rw [placeOf_join workingDir (modulesDir_ne_empty config) relative, segments_of_notMem ordinary.2.2.2]
  exact resolve_names (by simpa using ordinary) _

section
variable {config : Config} {tree : Tree} {workingDir : Place} {source : Source}

theorem isAlphanum_of_mem_source (mem : source ∈ sourcesIn config tree) :
    ∀ c ∈ source.component.toList, c.isAlphanum = true := by
  obtain ⟨_, _, _, _, rfl⟩ := exists_ofPlace_of_discover mem
  exact fun c => isAlphanum_of_mem_component

theorem outputs_eq (mem : source ∈ sourcesIn config tree) :
    outputs config workingDir source =
      [placeOf workingDir config.modulesDir ++ [source.component ++ ".jsx"],
        placeOf workingDir config.modulesDir ++ [source.component ++ ".css"]] := by
  have plain := isAlphanum_of_mem_source mem
  rw [outputs, placeOf_output config workingDir (isName_append plain (.inl rfl)),
    placeOf_output config workingDir (isName_append plain (.inr rfl))]

/-- Pages outside the modules directory are not written to. -/
theorem ne_of_mem_outputs {path : String} (mem : source ∈ sourcesIn config tree)
    (apart : ¬ placeOf workingDir config.modulesDir <+: placeOf workingDir path) :
    ∀ place ∈ outputs config workingDir source, place ≠ placeOf workingDir path := by
  rw [outputs_eq mem]
  rintro place isOutput rfl
  have inside : placeOf workingDir config.modulesDir <+: placeOf workingDir path := by
    rcases List.mem_cons.1 isOutput with same | other
    · exact ⟨_, same.symm⟩
    · exact ⟨_, (List.mem_singleton.1 other).symm⟩
  exact apart inside

theorem exists_ending (mem : source ∈ sourcesIn config tree) {place : Place}
    (isOutput : place ∈ outputs config workingDir source) :
    ∃ ending : String, ending.toList.length = 4 ∧
      place = placeOf workingDir config.modulesDir ++ [source.component ++ ending] := by
  rw [outputs_eq mem] at isOutput
  rcases List.mem_cons.1 isOutput with same | other
  · exact ⟨".jsx", by decide, same⟩
  · exact ⟨".css", by decide, List.mem_singleton.1 other⟩

end

theorem append_ending_inj {stem other ending another : String}
    (same : stem ++ ending = other ++ another)
    (lengths : ending.toList.length = another.toList.length) : stem = other ∧ ending = another := by
  have texts := congrArg String.toList same
  rw [String.toList_append, String.toList_append] at texts
  obtain ⟨stems, endings⟩ := List.append_inj' texts lengths
  exact ⟨String.toList_injective stems, String.toList_injective endings⟩

/-- **No two pages are built to one place**, and no page has one place for both of its files. -/
theorem nodup_outputs (config : Config) (tree : Tree) (workingDir : Place) :
    ((sourcesIn config tree).flatMap (outputs config workingDir)).Nodup := by
  refine List.nodup_flatMap.2 ⟨fun source mem => ?_, ?_⟩
  · rw [outputs_eq mem]
    simp
  · have distinct : (sourcesIn config tree).Pairwise (·.component ≠ ·.component) :=
      (components_ofPlaces config.pagesDir [] _).2
    refine (List.Pairwise.and_mem.1 distinct).imp ?_
    rintro first second ⟨isFirst, isSecond, differ⟩ place inFirst inSecond
    obtain ⟨ending, length, rfl⟩ := exists_ending isFirst inFirst
    obtain ⟨another, sameLength, same⟩ := exists_ending isSecond inSecond
    have names := List.singleton_inj.1 (List.append_cancel_left same)
    exact differ (append_ending_inj names (length.trans sameLength.symm)).1

end JsxPages.Project
