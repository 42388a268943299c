import JsxPages.Proofs.Project.Pages
import JsxPages.Proofs.Project.Report
/-!
# Builds in any order

Pages may be built side by side, each when its turn comes, as long as each is read and written in
one go. What a page comes to does not depend on the pages that were built before it: they write to
other places and create no directories (`pageRun`, `run_buildPages`). All texts go to places of
their own, so the tree behind a build is the same in every order as well (`build_any_order`).
-/

namespace JsxPages.Project

/-! ### One page -/

/-- What is left of building a page once its text is read. -/
def writePage {m : Type → Type} [Monad m] (disk : Disk m) (tools : Tools) (config : Config)
    (assets : AssetMap) (source : Source) (html : String) : ExceptT BuildError m Built := do
  let rendered ← ExceptT.mk (pure (render tools config assets source html))
  writeOrFail disk (Path.join config.modulesDir (source.component ++ ".jsx")) rendered.module
  writeStylesheet disk tools config rendered
  return .of source rendered

theorem buildPage_eq {m : Type → Type} [Monad m] (disk : Disk m) (tools : Tools) (config : Config)
    (assets : AssetMap) (source : Source) :
    buildPage disk tools config assets source =
      readText disk source.path >>= writePage disk tools config assets source :=
  rfl

section
variable {tools : Tools} {config : Config} {assets : AssetMap} {tree ready : Tree} {source : Source}

def Plan.stylesheet (tree : Tree) (tools : Tools) (config : Config) (rendered : Rendered)
    {name : String} (named : ∀ sheet, rendered.stylesheet = some sheet → sheet.1 = name) :
    Plan tree [placeOf tree.workingDir (Path.join config.modulesDir name)]
      (writeStylesheet Tree.disk tools config rendered) :=
  match sheet : rendered.stylesheet with
  | none => (Plan.pure ()).widen (List.nil_sublist _) (by rw [writeStylesheet, sheet])
  | some (file, text) =>
    match minified : if config.minify then tools.minifyStylesheet text else some text with
    | none =>
      (Plan.throw .invalidStylesheet).widen (List.nil_sublist _)
        (by rw [writeStylesheet, sheet]; dsimp only; rw [minified])
    | some text =>
      (Plan.write (Path.join config.modulesDir file) text).widen
        (by rw [← named _ sheet])
        (by rw [writeStylesheet, sheet]; dsimp only; rw [minified])

def Plan.page (tree : Tree) (tools : Tools) (config : Config) (assets : AssetMap) (source : Source)
    (html : String) :
    Plan tree (outputs config tree.workingDir source)
      (writePage Tree.disk tools config assets source html) :=
  (Plan.result (render tools config assets source html)).bind fun rendered done =>
    (Plan.write _ rendered.module).bind fun _ _ =>
      (Plan.stylesheet tree tools config rendered
        (fun sheet isSheet => by
          have only := (classes_of_render done).2
          rw [isSheet] at only
          split at only
          · cases only
          · rw [Option.some.inj only])).bind fun _ _ =>
        Plan.pure (Built.of source rendered)

/-- What building a page comes to, and the texts that it writes. -/
def pageRun (tools : Tools) (config : Config) (assets : AssetMap) (tree : Tree) (source : Source) :
    Except BuildError Built × List (Place × String) :=
  match tree.read source.path with
  | .error fault => (.error (.unreadable source.path fault), [])
  | .ok html =>
    let plan := Plan.page tree tools config assets source html
    (plan.outcome, plan.files)

theorem within_pageRun (tools : Tools) (config : Config) (assets : AssetMap) (tree : Tree)
    (source : Source) :
    ((pageRun tools config assets tree source).2.map (·.1)).Sublist
      (outputs config tree.workingDir source) := by
  rw [pageRun]
  split
  · exact List.nil_sublist _
  · exact (Plan.page ..).within

theorem free_pageRun :
    ∀ file ∈ (pageRun tools config assets tree source).2, tree.hasDir file.1 = false := by
  rw [pageRun]
  split
  · simp
  · exact (Plan.page ..).free

theorem after_buildPage (tools : Tools) (config : Config) (assets : AssetMap) {source : Source}
    {tree other : Tree} (same : other.SameDirs tree)
    (text : other.read source.path = tree.read source.path) :
    after (buildPage Tree.disk tools config assets source) other =
      ((pageRun tools config assets tree source).1,
        other.setAll (pageRun tools config assets tree source).2) := by
  rw [buildPage_eq, after_bind, after_readText, text, pageRun]
  cases tree.read source.path with
  | error fault => rfl
  | ok html => exact (Plan.page tree tools config assets source html).runs other same

/-! ### All pages -/

/-- The pages are found, and none is where modules are built to. -/
def Apart (config : Config) (start ready : Tree) : Prop :=
  ∀ source ∈ sourcesIn config start,
    ready.locate source.path = .ok (placeOf ready.workingDir source.path) ∧
      ¬ placeOf ready.workingDir config.modulesDir <+: placeOf ready.workingDir source.path

/-- The pages are found, and no page is built to where one is. -/
def Found (config : Config) (start ready : Tree) : Prop :=
  ∀ source ∈ sourcesIn config start,
    ready.locate source.path = .ok (placeOf ready.workingDir source.path) ∧
      ∀ another ∈ sourcesIn config start, ∀ place ∈ outputs config ready.workingDir another,
        place ≠ placeOf ready.workingDir source.path

theorem Apart.found {config : Config} {start ready : Tree} (located : Apart config start ready) :
    Found config start ready := by
  intro source mem
  obtain ⟨leads, apart⟩ := located source mem
  exact ⟨leads, fun another isSource => ne_of_mem_outputs isSource apart⟩

/-- A tree in which a build goes on as in another one. -/
structure Undisturbed (config : Config) (start ready other : Tree) : Prop where
  sameDirs : other.SameDirs ready
  texts : ∀ source ∈ sourcesIn config start, other.read source.path = ready.read source.path

theorem Undisturbed.refl (config : Config) (start ready : Tree) :
    Undisturbed config start ready ready :=
  ⟨Tree.SameDirs.refl ready, fun _ _ => rfl⟩

variable {start other : Tree}

/-- No page disturbs another one. -/
theorem Undisturbed.setAll (undisturbed : Undisturbed config start ready other)
    (located : Found config start ready)
    (mem : source ∈ sourcesIn config start) :
    Undisturbed config start ready
      (other.setAll (pageRun tools config assets ready source).2) := by
  have free : ∀ file ∈ (pageRun tools config assets ready source).2,
      other.hasDir file.1 = false :=
    fun file isFile => (undisturbed.sameDirs.dirs file.1).trans (free_pageRun file isFile)
  refine ⟨(Tree.sameDirs_setAll free).trans undisturbed.sameDirs, fun another isSource => ?_⟩
  obtain ⟨leads, apart⟩ := located another isSource
  have still := Tree.locate_mono undisturbed.sameDirs.hasDirsOf leads
  rw [Tree.read_setAll free still, undisturbed.texts another isSource]
  intro file isFile
  exact apart source mem file.1
    ((within_pageRun tools config assets ready source).subset (List.mem_map_of_mem isFile))

theorem run_buildPages_cons (source : Source) (order : List Source) (tree : Tree) :
    (buildPages (m := StateM Tree) Tree.disk tools config assets (source :: order)).run tree =
      let first := after (buildPage Tree.disk tools config assets source) tree
      let later := (buildPages (m := StateM Tree) Tree.disk tools config assets order).run first.2
      ((source, first.1) :: later.1, later.2) := by
  rw [buildPages, List.mapM_cons]
  rfl

theorem Found.run_buildPages (located : Found config start ready) {order : List Source}
    (sub : order ⊆ sourcesIn config start)
    (undisturbed : Undisturbed config start ready other) :
    (buildPages (m := StateM Tree) Tree.disk tools config assets order).run other =
      (order.map fun source => (source, (pageRun tools config assets ready source).1),
        other.setAll (order.flatMap fun source =>
          (pageRun tools config assets ready source).2)) := by
  induction order generalizing other with
  | nil => rfl
  | cons source order ih =>
    obtain ⟨mem, others⟩ := List.cons_subset.1 sub
    have next : Undisturbed config start ready
        (other.setAll (pageRun tools config assets ready source).2) :=
      undisturbed.setAll located mem
    have later := ih others next
    -- the page reads what it would read in `ready`, although other pages were written since
    rw [run_buildPages_cons,
      after_buildPage tools config assets undisturbed.sameDirs (undisturbed.texts source mem),
      List.flatMap_cons, Tree.setAll_append]
    dsimp only
    rw [later]
    rfl

theorem run_buildPages (located : Apart config start ready) {order : List Source}
    (sub : order ⊆ sourcesIn config start)
    (undisturbed : Undisturbed config start ready other) :
    (buildPages (m := StateM Tree) Tree.disk tools config assets order).run other =
      (order.map fun source => (source, (pageRun tools config assets ready source).1),
        other.setAll (order.flatMap fun source =>
          (pageRun tools config assets ready source).2)) :=
  located.found.run_buildPages sub undisturbed

/-! ### The files of all pages -/

theorem map_flatMap_sublist {α β γ : Type} {files : α → List β} {place : β → γ}
    {places : α → List γ} (within : ∀ a, ((files a).map place).Sublist (places a)) (list : List α) :
    ((list.flatMap files).map place).Sublist (list.flatMap places) := by
  induction list with
  | nil => exact List.Sublist.slnil
  | cons a list ih =>
    rw [List.flatMap_cons, List.flatMap_cons, List.map_append]
    exact (within a).append ih

theorem distinct_files (tools : Tools) (config : Config) (assets : AssetMap) (start ready : Tree) :
    ((sourcesIn config start).flatMap fun source =>
      (pageRun tools config assets ready source).2).Pairwise (·.1 ≠ ·.1) := by
  have within := map_flatMap_sublist (within_pageRun tools config assets ready)
    (sourcesIn config start)
  exact List.pairwise_map.1 (within.nodup (nodup_outputs config start ready.workingDir))

theorem free_files (tools : Tools) (config : Config) (assets : AssetMap) (ready : Tree)
    (sources : List Source) :
    ∀ file ∈ sources.flatMap fun source => (pageRun tools config assets ready source).2,
      ready.hasDir file.1 = false := by
  intro file mem
  obtain ⟨source, _, isFile⟩ := List.mem_flatMap.1 mem
  exact free_pageRun file isFile

/-! ### Any order -/

/-- Builds the pages in another order than theirs, and reports on them in theirs. -/
def buildPagesBy {m : Type → Type} [Monad m] (schedule : List Source → List Source) (disk : Disk m)
    (tools : Tools) (config : Config) (assets : AssetMap) (sources : List Source) :
    m (List (Source × Except BuildError Built)) := do
  let outcomes ← buildPages disk tools config assets (schedule sources)
  return sources.filterMap fun source => outcomes.find? fun outcome => outcome.1 = source

/-- Builds a project, its pages in the order of a schedule. -/
def buildBy {m : Type → Type} [Monad m] (schedule : List Source → List Source) (disk : Disk m)
    (tools : Tools) (config : Config) : ExceptT BuildError m Report :=
  buildWith disk config (buildPagesBy schedule disk tools config)

theorem filterMap_find?_map {β : Type} (outcome : Source → β) {sources order : List Source}
    (all : ∀ source ∈ sources, source ∈ order) :
    (sources.filterMap fun source =>
        (order.map fun source => (source, outcome source)).find? fun found => found.1 = source) =
      sources.map fun source => (source, outcome source) := by
  induction sources with
  | nil => rfl
  | cons source sources ih =>
    obtain ⟨first, others⟩ := List.forall_mem_cons.1 all
    have found : ((order.map fun source => (source, outcome source)).find? fun found =>
        found.1 = source) = some (source, outcome source) := by
      have isThere : (order.find? fun another => another = source).isSome :=
        List.find?_isSome.2 ⟨source, first, decide_eq_true rfl⟩
      obtain ⟨another, isFound⟩ := Option.isSome_iff_exists.1 isThere
      obtain rfl : another = source := by simpa using List.find?_some isFound
      rw [List.find?_map]
      exact congrArg _ isFound
    rw [List.filterMap_cons, found, List.map_cons, ih others]

/-- Trees that hold the same at every place, with one working directory. -/
structure SameFiles (tree other : Tree) : Prop where
  workingDir : tree.workingDir = other.workingDir
  places : ∀ place, tree.find? place = other.find? place

theorem SameFiles.sameDirs {tree other : Tree} (same : SameFiles tree other) :
    tree.SameDirs other := by
  refine ⟨same.workingDir, fun place => ?_⟩
  rw [Tree.hasDir, same.places place]
  rfl

theorem finish_congr {tree other : Tree} (same : SameFiles tree other) (config : Config)
    (report : Report) :
    (finish config report tree).1 = (finish config report other).1 ∧
      SameFiles (finish config report tree).2 (finish config report other).2 := by
  rw [finish, finish, Tree.write_eq, Tree.write_eq, Tree.target?_congr same.sameDirs]
  cases found : other.target? (Path.join config.outputDir "pages.json") with
  | none => exact ⟨rfl, same⟩
  | some place =>
    refine ⟨rfl, same.workingDir, fun another => ?_⟩
    have some := Tree.ne_nil_of_not_hasDir (Tree.target?_eq_some found).2
    change (tree.set _ _).find? another = (other.set _ _).find? another
    rw [Tree.find?_set some, Tree.find?_set some, same.places another]

theorem run_buildPagesBy_eq (schedule : List Source → List Source) (sources : List Source)
    (tree : Tree) :
    (buildPagesBy (m := StateM Tree) schedule Tree.disk tools config assets sources).run tree =
      let ran := (buildPages (m := StateM Tree) Tree.disk tools config assets
        (schedule sources)).run tree
      (sources.filterMap fun source => ran.1.find? fun outcome => outcome.1 = source, ran.2) :=
  rfl

theorem run_buildPagesBy (tools : Tools) (assets : AssetMap)
    {schedule : List Source → List Source} (perm : ∀ sources, (schedule sources).Perm sources)
    (located : Apart config start ready) :
    let ran := (buildPagesBy (m := StateM Tree) schedule Tree.disk tools config assets
      (sourcesIn config start)).run ready
    let plain := (buildPages (m := StateM Tree) Tree.disk tools config assets
      (sourcesIn config start)).run ready
    ran.1 = plain.1 ∧ SameFiles ran.2 plain.2 := by
  have calm := Undisturbed.refl config start ready
  have scheduled := perm (sourcesIn config start)
  intro ran plain
  have inOrder : plain = _ := run_buildPages located (List.Subset.refl _) calm
  have anyOrder : ran = _ := run_buildPagesBy_eq schedule (sourcesIn config start) ready
  rw [anyOrder, inOrder, run_buildPages located scheduled.subset calm]
  refine ⟨filterMap_find?_map _ fun source mem => scheduled.mem_iff.2 mem, ?_⟩
  have free := free_files tools config assets ready (schedule (sourcesIn config start))
  have freeInOrder := free_files tools config assets ready (sourcesIn config start)
  refine ⟨(Tree.sameDirs_setAll free).workingDir.trans
    (Tree.sameDirs_setAll freeInOrder).workingDir.symm, ?_⟩
  exact Tree.find?_setAll_perm (scheduled.flatMap_right _) free
    ((scheduled.symm.flatMap_right _).pairwise (distinct_files tools config assets start ready)
      Ne.symm)

/-! ### What pages come to -/

theorem after_bind_ok {α β : Type} {program : ExceptT BuildError (StateM Tree) α}
    {next : α → ExceptT BuildError (StateM Tree) β} {tree left : Tree} {value : β}
    (done : after (program >>= next) tree = (.ok value, left)) :
    ∃ first middle, after program tree = (.ok first, middle) ∧
      after (next first) middle = (.ok value, left) := by
  rw [after_bind] at done
  split at done
  · rename_i first middle ran
    exact ⟨first, middle, ran, done⟩
  · cases done

/-- What is told of a page that is built does not depend on its text. -/
theorem entry_of_buildPage {left : Tree} {built : Built}
    (done : after (buildPage Tree.disk tools config assets source) tree = (.ok built, left)) :
    built.entry = source.entry := by
  rw [buildPage_eq] at done
  obtain ⟨html, _, _, written⟩ := after_bind_ok done
  obtain ⟨rendered, _, _, written⟩ := after_bind_ok written
  obtain ⟨_, _, _, written⟩ := after_bind_ok written
  obtain ⟨_, _, _, written⟩ := after_bind_ok written
  cases written
  rfl

theorem entry_of_pageRun {built : Built}
    (done : (pageRun tools config assets tree source).1 = .ok built) :
    built.entry = source.entry := by
  have same : tree.read source.path = tree.read source.path := rfl
  have ran := after_buildPage tools config assets (Tree.SameDirs.refl tree) same
  rw [done] at ran
  exact entry_of_buildPage ran

theorem ok_of_finish {report told : Report} (done : (finish config report tree).1 = .ok told) :
    told = report := by
  rw [finish] at done
  split at done
  · cases done
  · exact (Except.ok.inj done).symm

theorem write_of_finish {report told : Report} {left : Tree}
    (done : finish config report tree = (.ok told, left)) :
    told = report ∧
      tree.write (Path.join config.outputDir "pages.json") (manifestText report.entries) =
        some left := by
  rw [finish] at done
  split at done
  · cases done
  · rename_i written
    obtain ⟨same, rfl⟩ := Prod.mk.inj done
    exact ⟨(Except.ok.inj same).symm, written⟩

/-- The pages of a project are still found once the directory for modules is there. -/
theorem apart_of_createDirs (ordinary : tree.IsOrdinary)
    (apart : ∀ source ∈ sourcesIn config tree,
      ¬ placeOf tree.workingDir config.modulesDir <+: placeOf tree.workingDir source.path)
    (created : tree.createDirs config.modulesDir = some ready) : Apart config tree ready := by
  have more := Tree.hasDirsOf_createDirs created
  intro source mem
  rw [more.workingDir]
  exact ⟨Tree.locate_mono more (locate_source ordinary mem), apart source mem⟩

end

/-- **Pages can be built in any order.** Take any project: a tree of files, of which no page lies
where modules are written to. Whatever the order in which its pages are built, the build comes to
the same report or the same error, and leaves the same files, as if they were built in their own
order. If it comes to a report, each page is either in the manifest or among the failures, the
failures in the order of the pages, the manifest in the order of the routes and pages with one route
in their own. -/
theorem build_any_order (tools : Tools) (config : Config) (tree : Tree)
    (schedule : List Source → List Source)
    (perm : ∀ sources, (schedule sources).Perm sources) (ordinary : tree.IsOrdinary)
    (apart : ∀ source ∈ sourcesIn config tree,
      ¬ placeOf tree.workingDir config.modulesDir <+: placeOf tree.workingDir source.path) :
    let scheduled := after (buildBy schedule Tree.disk tools config) tree
    let plain := after (build Tree.disk tools config) tree
    (scheduled.1 = plain.1 ∧ ∀ place, scheduled.2.find? place = plain.2.find? place) ∧
      ∀ report, plain.1 = .ok report →
        ∃ isBuilt : Source → Bool,
          let built := (sourcesIn config tree).filter isBuilt
          let failed := (sourcesIn config tree).filter (!isBuilt ·)
          report.entries.Perm (built.map Source.entry) ∧
            report.failures.map (·.1) = failed.map (·.path) ∧
            report.entries.Pairwise (fun first second => ¬ second.route < first.route) ∧
            ∀ route, report.entries.filter (·.route = route) =
              (built.map Source.entry).filter (·.route = route) := by
  intro scheduled plain
  rcases buildWith_cases config tree with ⟨error, stops⟩ | ⟨assets, ready, created, goes⟩
  · have scheduledStops : scheduled = (.error error, tree) := stops _
    have plainStops : plain = (.error error, tree) := stops _
    rw [scheduledStops, plainStops]
    exact ⟨⟨rfl, fun _ => rfl⟩, fun report done => by cases done⟩
  have located := apart_of_createDirs ordinary apart created
  have scheduledGoes : scheduled = _ := goes _
  have plainGoes : plain = _ :=
    (congrArg (after · tree) (build_eq Tree.disk tools config)).trans (goes _)
  refine ⟨?_, fun report done => ?_⟩
  · obtain ⟨outcomes, files⟩ := run_buildPagesBy tools assets perm located
    rw [scheduledGoes, plainGoes]
    dsimp only
    rw [outcomes]
    obtain ⟨ended, same⟩ := finish_congr files config _
    exact ⟨ended, same.places⟩
  · rw [plainGoes] at done
    dsimp only at done
    rw [run_buildPages located (List.Subset.refl _) (Undisturbed.refl config tree ready)] at done
    obtain rfl := ok_of_finish done
    have entries : (builtPages ((sourcesIn config tree).map fun source =>
        (source, (pageRun tools config assets ready source).1))).map (·.entry) = _ :=
      builtPages_map _ fun _ _ => entry_of_pageRun
    refine ⟨fun source => (pageRun tools config assets ready source).1.isOk, ?_, ?_, ?_, ?_⟩
    · rw [← entries]
      exact List.mergeSort_perm _ _
    · exact failedPages_map _ _
    · exact pairwise_sortByRoute _
    · intro route
      rw [← entries]
      exact filter_sortByRoute _ route

/-! ### A page that fails -/

def lenientTools : Tools :=
  { acceptsModule := fun _ => true, minifyStylesheet := some }

/-- A page that is no text, and one that is. -/
def twoPages : Tree :=
  { nodes := [(["site"], .directory), (["site", "pages"], .directory),
      (["site", "pages", "data.html"], .binary [255]),
      (["site", "pages", "index.html"], .text "<p style='--x:1'>"),
      (["site", "notes.txt"], .text "")]
    workingDir := ["site"] }

/-- The pages are named from the root, and the output from the working directory. -/
def fromRoot : Config :=
  { pagesDir := "/site/pages" }

/-- What a build of the two pages comes to. -/
def twoPagesReport : Report :=
  { entries := [⟨"/", "Index", "src/pages/Index.jsx", "index.html"⟩]
    images := 0
    classes := 1
    failures := [("/site/pages/data.html", .unreadable "/site/pages/data.html" .notText)] }

theorem sourcesIn_twoPages :
    sourcesIn fromRoot twoPages =
      Source.ofPlaces "/site/pages" [] [["data.html"], ["index.html"]] :=
  sourcesIn_of_sorted (by decide +kernel) (by decide +kernel)

theorem build_twoPages :
    (after (build Tree.disk lenientTools fromRoot) twoPages).1 = .ok twoPagesReport := by
  let sources := Source.ofPlaces "/site/pages" [] [["data.html"], ["index.html"]]
  let outcomes : List (Source × Except BuildError Built) := sources.zip
    [.error (.unreadable "/site/pages/data.html" .notText), .ok ⟨twoPagesReport.entries[0], [], 1⟩]
  have told : Report.of outcomes = twoPagesReport :=
    Report.of_eq (by decide +kernel) (by decide +kernel) (by decide +kernel)
  have goes : (leftBy? lenientTools fromRoot {} sources outcomes twoPagesReport
      twoPages).isSome = true := by
    decide +kernel
  obtain ⟨left, goes⟩ := Option.isSome_iff_exists.1 goes
  rw [after_build_of_leftBy? rfl (by decide) (by decide +kernel) sourcesIn_twoPages told goes]

/-- One page is built and the other one fails, in both orders. -/
theorem build_any_order_twoPages :
    (sourcesIn fromRoot twoPages).map (·.route) = ["/data", "/"] ∧ twoPages.IsOrdinary ∧
      let reversed := after (buildBy List.reverse Tree.disk lenientTools fromRoot) twoPages
      let plain := after (build Tree.disk lenientTools fromRoot) twoPages
      (reversed.1 = plain.1 ∧ ∀ place, reversed.2.find? place = plain.2.find? place) ∧
      plain.1 = .ok twoPagesReport ∧
      ∃ isBuilt : Source → Bool,
        let built := (sourcesIn fromRoot twoPages).filter isBuilt
        let failed := (sourcesIn fromRoot twoPages).filter (!isBuilt ·)
        built.map Source.entry = twoPagesReport.entries ∧
          failed.map (·.path) = ["/site/pages/data.html"] := by
  have ordinary : twoPages.IsOrdinary := ⟨by decide +kernel, by decide +kernel⟩
  have apart : ∀ source ∈ sourcesIn fromRoot twoPages,
      ¬ placeOf twoPages.workingDir fromRoot.modulesDir <+:
        placeOf twoPages.workingDir source.path := by
    rw [sourcesIn_twoPages]
    decide +kernel
  have routes : (sourcesIn fromRoot twoPages).map (·.route) = ["/data", "/"] := by
    rw [sourcesIn_twoPages]
    decide +kernel
  obtain ⟨same, told⟩ := build_any_order lenientTools fromRoot twoPages List.reverse
    List.reverse_perm ordinary apart
  obtain ⟨isBuilt, entries, failures, _⟩ := told twoPagesReport build_twoPages
  exact ⟨routes, ordinary, same, build_twoPages, isBuilt,
    List.perm_singleton.1 entries.symm, failures.symm⟩

end JsxPages.Project
