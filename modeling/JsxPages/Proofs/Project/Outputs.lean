import JsxPages.Proofs.Project.Order
import JsxPages.Proofs.Tables.Lookup
import JsxPages.Proofs.Text.Cuts
/-!
# Where a build writes

A build creates directories where nothing was (`find?_createDirs`), so what pages are read from is
as it was. The places that it writes to are told apart by their last names: the ending of a page is
that of no module and of no stylesheet (`found_of_createDirs`), and the manifest has another name
than they have (`manifestPlace_notMem_outputs`). So behind all pages there stands at each of these
places what the one page that is built to it has left there (`find?_setAll_pages`).
-/

namespace JsxPages.Project

namespace Tree

variable {tree ready : Tree} {place : Place}

/-! ### New directories -/

/-- The file at a place, if there is one. -/
def file? (tree : Tree) (place : Place) : Option Node :=
  (tree.find? place).filter (· != .directory)

theorem file?_congr {other : Tree} (same : tree.find? place = other.find? place) :
    tree.file? place = other.file? place := by
  rw [file?, file?, same]

theorem find?_setDirectory (place another : Place) :
    (tree.set place .directory).find? another =
      if another = place then some .directory else tree.find? another := by
  by_cases root : place = []
  · rw [root, find?, find?, set, lookup_setNode]
  · exact find?_set root _ _

/-- Directories are put where nothing is, or a directory. -/
theorem find?_setDirectories {places : List Place}
    (clear : ∀ place ∈ places, tree.find? place = none ∨ tree.find? place = some .directory)
    (another : Place) :
    let more := places.foldl (fun tree place => tree.set place .directory) tree
    more.find? another = tree.find? another ∨
      tree.find? another = none ∧ more.find? another = some .directory := by
  induction places generalizing tree with
  | nil => exact .inl rfl
  | cons place places ih =>
    obtain ⟨first, others⟩ := List.forall_mem_cons.1 clear
    have still : ∀ other ∈ places, (tree.set place .directory).find? other = none ∨
        (tree.set place .directory).find? other = some .directory := by
      intro other mem
      rw [find?_setDirectory]
      split
      · exact .inr rfl
      · exact others other mem
    have later := ih still
    rw [List.foldl_cons]
    rw [find?_setDirectory] at later
    split at later
    · rename_i same
      have dir := later.elim id And.right
      rw [same] at dir ⊢
      exact first.elim (fun none => .inr ⟨none, dir⟩) fun already => .inl (dir.trans already.symm)
    · exact later

theorem find?_createDirs {path : String} (created : tree.createDirs path = some ready)
    (place : Place) :
    ready.find? place = tree.find? place ∨
      tree.find? place = none ∧ ready.find? place = some .directory := by
  unfold createDirs at created
  dsimp only at created
  split at created
  · rename_i checked
    obtain rfl := Option.some.inj created
    refine find?_setDirectories (fun waypoint mem => ?_) place
    have clear := List.all_eq_true.1 (Bool.and_eq_true_iff.1 checked).2 waypoint mem
    simpa [hasDir] using clear
  · cases created

theorem file?_createDirs {path : String} (created : tree.createDirs path = some ready)
    (place : Place) : ready.file? place = tree.file? place := by
  rcases find?_createDirs created place with same | ⟨none, dir⟩
  · exact file?_congr same
  · rw [file?, file?, none, dir]
    rfl

/-- What can be read is read as before. -/
theorem read_createDirs {path file : String} (created : tree.createDirs path = some ready)
    (leads : tree.locate file = .ok place) (isThere : (tree.find? place).isSome) :
    ready.read file = tree.read file := by
  have leads' := locate_mono (hasDirsOf_createDirs created) leads
  rw [read, read, leads, leads']
  dsimp only
  rcases find?_createDirs created place with same | ⟨none, _⟩
  · rw [same]
  · rw [none] at isThere
    cases isThere

end Tree

section
variable {config : Config} {tree ready : Tree} {workingDir : Place} {source : Source}

/-! ### The files of a page -/

def Config.modulePlace (config : Config) (workingDir : Place) (source : Source) : Place :=
  placeOf workingDir (Path.join config.modulesDir (source.component ++ ".jsx"))

def Config.stylesheetPlace (config : Config) (workingDir : Place) (source : Source) : Place :=
  placeOf workingDir (Path.join config.modulesDir (source.component ++ ".css"))

def Config.manifestPlace (config : Config) (workingDir : Place) : Place :=
  placeOf workingDir (Path.join config.outputDir "pages.json")

theorem outputs_eq_places (config : Config) (workingDir : Place) (source : Source) :
    outputs config workingDir source =
      [config.modulePlace workingDir source, config.stylesheetPlace workingDir source] :=
  rfl

theorem modulePlace_mem_outputs (config : Config) (workingDir : Place) (source : Source) :
    config.modulePlace workingDir source ∈ outputs config workingDir source :=
  List.mem_cons_self

theorem stylesheetPlace_mem_outputs (config : Config) (workingDir : Place) (source : Source) :
    config.stylesheetPlace workingDir source ∈ outputs config workingDir source :=
  List.mem_cons_of_mem _ List.mem_cons_self

/-- A path of ordinary names lies below any other path. -/
theorem placeOf_join_names (workingDir : Place) {base path : String} {names : List String}
    (spelled : segments path = names) (ordinary : ∀ name ∈ names, IsName name)
    (relative : path.toList.head? ≠ some '/') :
    placeOf workingDir (Path.join base path) = placeOf workingDir base ++ names := by
  by_cases empty : base = ""
  · have joined : Path.join base path = path := by
      rw [Path.join, if_pos (.inl (by simp [empty]))]
    rw [joined, placeOf, startOf, if_neg relative, spelled, resolve_names ordinary, empty]
    rfl
  · rw [placeOf_join workingDir empty relative, spelled, resolve_names ordinary]

theorem placeOf_modulesDir (config : Config) (workingDir : Place) :
    placeOf workingDir config.modulesDir =
      placeOf workingDir config.outputDir ++ ["src", "pages"] := by
  have src : placeOf workingDir (Path.join config.outputDir "src") =
      placeOf workingDir config.outputDir ++ ["src"] :=
    placeOf_join_names workingDir rfl (by decide) (by decide)
  rw [Config.modulesDir, placeOf_join_names workingDir rfl (by decide) (by decide), src,
    List.append_assoc]
  rfl

/-- The manifest names the modules by their paths from the output directory on. -/
theorem placeOf_entryModule (mem : source ∈ sourcesIn config tree) :
    placeOf workingDir (Path.join config.outputDir source.entry.module) =
      config.modulePlace workingDir source := by
  have named := isName_append (isAlphanum_of_mem_source mem) (.inl rfl)
  have path : source.entry.module =
      "src" ++ "/" ++ "pages" ++ "/" ++ (source.component ++ ".jsx") := by
    change "src/pages/" ++ source.component ++ ".jsx" = _
    rw [String.append_assoc]
    rfl
  have names : segments source.entry.module = ["src", "pages", source.component ++ ".jsx"] := by
    rw [path, segments_slash, segments_slash, segments_of_notMem named.2.2.2]
    rfl
  have ordinary : ∀ name ∈ ["src", "pages", source.component ++ ".jsx"], IsName name := by
    simp only [List.forall_mem_cons]
    exact ⟨by decide, by decide, named, List.forall_mem_nil _⟩
  have relative : source.entry.module.toList.head? ≠ some '/' := by
    rw [path]
    simp
  rw [placeOf_join_names workingDir names ordinary relative, Config.modulePlace,
    placeOf_output config workingDir named, placeOf_modulesDir, List.append_assoc]
  rfl

/-- The manifest is no file of a page. -/
theorem manifestPlace_notMem_outputs (mem : source ∈ sourcesIn config tree) :
    config.manifestPlace workingDir ∉ outputs config workingDir source := by
  have manifest : config.manifestPlace workingDir =
      placeOf workingDir config.outputDir ++ ["pages.json"] :=
    placeOf_join_names workingDir rfl (by decide) (by decide)
  have cut : "pages.json" = "pages." ++ "json" := rfl
  rw [outputs_eq mem, manifest]
  intro isOutput
  rcases List.mem_cons.1 isOutput with same | other
  · have names := List.singleton_inj.1 (List.append_inj_right' same rfl)
    exact absurd (append_ending_inj (cut.symm.trans names) rfl).2 (by decide)
  · have names := List.singleton_inj.1 (List.append_inj_right' (List.mem_singleton.1 other) rfl)
    exact absurd (append_ending_inj (cut.symm.trans names) rfl).2 (by decide)

/-! ### Pages are no outputs -/

theorem isPage_of_mem (mem : source ∈ sourcesIn config tree) :
    Source.isPage source.place = true := by
  obtain ⟨taken, place, isPlace, rfl⟩ := exists_ofPlace mem
  exact (List.mem_filter.1 (List.mem_mergeSort.1 isPlace)).2

/-- There is something where a page is read from. -/
theorem isSome_find?_source (ordinary : tree.IsOrdinary) (mem : source ∈ sourcesIn config tree) :
    (tree.find? (placeOf tree.workingDir source.path)).isSome := by
  obtain ⟨base, node, leads, isNode⟩ := exists_locate_source ordinary mem
  rw [← Tree.placeOf_of_locate leads, Tree.find?]
  split
  · rfl
  · exact isSome_lookup_iff.2 (List.mem_map_of_mem isNode)

/-- No page has the ending of an output. -/
theorem not_isPage_concat (place : List String) {stem ending : String}
    (free : '.' ∉ ending.toList) (other : (ending == "html" || ending == "htm") = false) :
    Source.isPage (place ++ [stem ++ "." ++ ending]) = false := by
  have cut : Text.cutLast '.' (stem ++ "." ++ ending).toList =
      some (stem.toList, ending.toList) := by
    rw [String.toList_append, String.toList_append, List.append_assoc]
    exact Text.cutLast_append free stem.toList
  have extension : Path.extensionOf? (stem ++ "." ++ ending) = none ∨
      Path.extensionOf? (stem ++ "." ++ ending) = some ending := by
    rw [Path.extensionOf?, Path.splitName, cut]
    cases stem.toList with
    | nil => exact .inl rfl
    | cons c rest => exact .inr (congrArg some String.ofList_toList)
  rw [Source.isPage, List.getLast?_concat, Option.bind_some]
  rcases extension with same | same
  · rw [same]
  · rw [same]
    exact other

theorem not_isPage_of_mem_outputs {place : Place} (mem : source ∈ sourcesIn config tree)
    (isOutput : place ∈ outputs config workingDir source) : Source.isPage place = false := by
  have module : source.component ++ ".jsx" = source.component ++ "." ++ "jsx" := by
    rw [String.append_assoc]
    rfl
  have stylesheet : source.component ++ ".css" = source.component ++ "." ++ "css" := by
    rw [String.append_assoc]
    rfl
  rw [outputs_eq mem, module, stylesheet] at isOutput
  rcases List.mem_cons.1 isOutput with rfl | other
  · exact not_isPage_concat _ (by decide) (by decide)
  · rw [List.mem_singleton.1 other]
    exact not_isPage_concat _ (by decide) (by decide)

theorem isPage_append (base : Place) {place : Place} (isPage : Source.isPage place = true) :
    Source.isPage (base ++ place) = true := by
  cases last : place.getLast? with
  | none =>
    rw [Source.isPage, last] at isPage
    cases isPage
  | some name =>
    rw [Source.isPage, List.getLast?_append, last]
    rw [Source.isPage, last] at isPage
    exact isPage

/-- Once the directory for modules is there, all pages are found, and none is built to where one
is. -/
theorem found_of_createDirs (ordinary : tree.IsOrdinary)
    (created : tree.createDirs config.modulesDir = some ready) : Found config tree ready := by
  have more := Tree.hasDirsOf_createDirs created
  intro source mem
  rw [more.workingDir]
  refine ⟨Tree.locate_mono more (locate_source ordinary mem),
    fun another isSource place isOutput same => ?_⟩
  obtain ⟨base, _, leads, _⟩ := exists_locate_source ordinary mem
  have page := isPage_append base (isPage_of_mem mem)
  rw [Tree.placeOf_of_locate leads, ← same, not_isPage_of_mem_outputs isSource isOutput] at page
  cases page

/-- Pages are read as they were before the directory for modules was there. -/
theorem read_source (ordinary : tree.IsOrdinary)
    (created : tree.createDirs config.modulesDir = some ready)
    (mem : source ∈ sourcesIn config tree) : ready.read source.path = tree.read source.path :=
  Tree.read_createDirs created (locate_source ordinary mem) (isSome_find?_source ordinary mem)

/-! ### Behind all pages -/

theorem eq_of_mem_outputs {another : Source} {place : Place} (mem : source ∈ sourcesIn config tree)
    (isSource : another ∈ sourcesIn config tree)
    (isOutput : place ∈ outputs config workingDir source)
    (isItsOutput : place ∈ outputs config workingDir another) : source = another := by
  by_contra differ
  have symmetric : Std.Symm (Function.onFun List.Disjoint (outputs config workingDir)) :=
    ⟨fun _ _ apart _ inSecond inFirst => apart inFirst inSecond⟩
  have distinct := List.nodup_flatMap.1 (nodup_outputs config tree workingDir)
  have apart := distinct.2.forall mem isSource differ
  exact apart isOutput isItsOutput

/-- Where a page is built to, all pages together leave what it leaves alone. -/
theorem find?_setAll_pages (tools : Tools) (assets : AssetMap) (ready : Tree)
    (mem : source ∈ sourcesIn config tree) {place : Place}
    (isOutput : place ∈ outputs config ready.workingDir source) :
    (ready.setAll ((sourcesIn config tree).flatMap fun source =>
        (pageRun tools config assets ready source).2)).find? place =
      (after (buildPage Tree.disk tools config assets source) ready).2.find? place := by
  have free := free_files tools config assets ready (sourcesIn config tree)
  have distinct := distinct_files tools config assets tree ready
  have all : ∀ file ∈ (pageRun tools config assets ready source).2,
      file ∈ (sourcesIn config tree).flatMap fun source =>
        (pageRun tools config assets ready source).2 :=
    fun file isFile => List.mem_flatMap.2 ⟨source, mem, isFile⟩
  have own := (List.pairwise_flatMap.1 distinct).1 source mem
  rw [after_buildPage tools config assets (Tree.SameDirs.refl ready) rfl]
  by_cases written : ∃ text, (place, text) ∈ (pageRun tools config assets ready source).2
  · obtain ⟨text, isFile⟩ := written
    rw [Tree.find?_setAll_of_mem free distinct (all _ isFile),
      Tree.find?_setAll_of_mem free_pageRun own isFile]
  · have notHere : ∀ file ∈ (pageRun tools config assets ready source).2, file.1 ≠ place := by
      rintro ⟨_, text⟩ isFile rfl
      exact written ⟨text, isFile⟩
    have nowhere : ∀ file ∈ (sourcesIn config tree).flatMap fun source =>
        (pageRun tools config assets ready source).2, file.1 ≠ place := by
      intro file isFile same
      obtain ⟨another, isSource, isFile⟩ := List.mem_flatMap.1 isFile
      have isItsOutput : file.1 ∈ outputs config ready.workingDir another :=
        (within_pageRun tools config assets ready another).subset (List.mem_map_of_mem isFile)
      rw [same] at isItsOutput
      obtain rfl := eq_of_mem_outputs isSource mem isItsOutput isOutput
      exact notHere file isFile same
    rw [Tree.find?_setAll_of_notMem free nowhere, Tree.find?_setAll_of_notMem free_pageRun notHere]

end

end JsxPages.Project
