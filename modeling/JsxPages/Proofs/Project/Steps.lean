import JsxPages.Proofs.Project.Files
import JsxPages.Proofs.Project.Programs
/-!
# Builds on a tree of files

What a build does to a tree is put together from what its steps do. A build reads everything that it
has to know before it writes (`after_buildWith`). What is left of a page once its text is read hangs
on the directories alone: it comes to the same end, and puts the same texts at the same places, in
every tree with these directories. `Plan` says so of a program and knows the outcome and the texts.
-/

namespace JsxPages.Project

variable {α β : Type}

/-! ### Programs -/

/-- What a program comes to on a tree, and the tree behind it. -/
def after (program : ExceptT BuildError (StateM Tree) α) (tree : Tree) :
    Except BuildError α × Tree :=
  program.run.run tree

theorem after_bind (program : ExceptT BuildError (StateM Tree) α)
    (next : α → ExceptT BuildError (StateM Tree) β) (tree : Tree) :
    after (program >>= next) tree =
      match after program tree with
      | (.ok value, tree) => after (next value) tree
      | (.error error, tree) => (.error error, tree) := by
  have same : outcome program tree = after program tree := rfl
  refine (outcome_bind program next tree).trans ?_
  rw [same]
  rcases after program tree with ⟨error | value, left⟩ <;> rfl

theorem after_lift (program : StateM Tree α) (tree : Tree) :
    after (liftM program) tree = (.ok (program.run tree).1, (program.run tree).2) :=
  rfl

theorem after_readText (path : String) (tree : Tree) :
    after (readText Tree.disk path) tree =
      ((tree.read path).mapError (BuildError.unreadable path), tree) := by
  have ran : (Tree.disk.read path).run tree = (tree.read path, tree) := rfl
  rw [readText, after_bind, after_lift, ran]
  cases tree.read path <;> rfl

theorem after_writeOrFail (path text : String) (tree : Tree) :
    after (writeOrFail Tree.disk path text) tree =
      match tree.write path text with
      | some tree => (.ok (), tree)
      | none => (.error .unwritable, tree) := by
  have ran : (Tree.disk.write path text).run tree =
      match tree.write path text with
      | some tree => (true, tree)
      | none => (false, tree) := rfl
  rw [writeOrFail, after_bind, after_lift, ran]
  cases tree.write path text <;> rfl

theorem after_loadAssets (file : Option String) (tree : Tree) :
    after (loadAssets Tree.disk file) tree =
      ((after (loadAssets Tree.disk file) tree).1, tree) := by
  refine Prod.ext rfl ?_
  cases file with
  | none => rfl
  | some path =>
    rw [loadAssets, after_bind, after_readText]
    cases tree.read path with
    | error fault => rfl
    | ok text =>
      simp only [Except.mapError]
      cases AssetMap.ofJson? text <;> rfl

/-! ### A whole build -/

/-- A build, given the way in which the pages are built. -/
def buildWith {m : Type → Type} [Monad m] (disk : Disk m) (config : Config)
    (pages : AssetMap → List Source → m (List (Source × Except BuildError Built))) :
    ExceptT BuildError m Report := do
  let assets ← loadAssets disk config.assetMap
  match config.baseOptions.check with
  | .error error => throw (.option error)
  | .ok () => pure ()
  if !(← disk.isDir config.pagesDir) then
    throw (.noPagesDir config.pagesDir)
  let sources := Source.discover config.pagesDir (← disk.filesBelow config.pagesDir)
  if !(← disk.createDirs config.modulesDir) then
    throw .unwritable
  let report := Report.of (← pages assets sources)
  writeOrFail disk (Path.join config.outputDir "pages.json") (manifestText report.entries)
  return report

theorem build_eq {m : Type → Type} [Monad m] (disk : Disk m) (tools : Tools) (config : Config) :
    build disk tools config = buildWith disk config (buildPages disk tools config) :=
  rfl

/-- The pages of a project. -/
def sourcesIn (config : Config) (tree : Tree) : List Source :=
  Source.discover config.pagesDir (tree.filesBelow config.pagesDir)

theorem sourcesIn_of_sorted {config : Config} {tree : Tree} {places : List Place}
    (files : (tree.filesBelow config.pagesDir).filter Source.isPage = places)
    (sorted : places.Pairwise fun place next => Source.notAfter place next = true) :
    sourcesIn config tree = Source.ofPlaces config.pagesDir [] places := by
  rw [sourcesIn, Source.discover, files, List.mergeSort_of_pairwise sorted]

/-- The end of a build: the manifest is written. -/
def finish (config : Config) (report : Report) (tree : Tree) : Except BuildError Report × Tree :=
  match tree.write (Path.join config.outputDir "pages.json") (manifestText report.entries) with
  | none => (.error .unwritable, tree)
  | some tree => (.ok report, tree)

theorem after_buildWith (config : Config)
    (pages : AssetMap → List Source → StateM Tree (List (Source × Except BuildError Built)))
    (tree : Tree) :
    after (buildWith Tree.disk config pages) tree =
      match (after (loadAssets Tree.disk config.assetMap) tree).1, config.baseOptions.check with
      | .error error, _ => (.error error, tree)
      | .ok _, .error error => (.error (.option error), tree)
      | .ok assets, .ok () =>
        if tree.at? config.pagesDir == some .directory then
          match tree.createDirs config.modulesDir with
          | none => (.error .unwritable, tree)
          | some ready =>
            let ran := (pages assets (sourcesIn config tree)).run ready
            finish config (Report.of ran.1) ran.2
        else
          (.error (.noPagesDir config.pagesDir), tree) := by
  rw [buildWith, after_bind, after_loadAssets]
  generalize (after (loadAssets Tree.disk config.assetMap) tree).1 = loaded
  cases loaded with
  | error error => rfl
  | ok assets =>
    cases checked : config.baseOptions.check with
    | error error => rfl
    | ok _ =>
      have isDir : (Tree.disk.isDir config.pagesDir).run tree =
          (tree.at? config.pagesDir == some .directory, tree) := rfl
      dsimp only
      rw [after_bind, after_lift, isDir]
      cases tree.at? config.pagesDir == some .directory with
      | false => rfl
      | true =>
        have found : (Tree.disk.filesBelow config.pagesDir).run tree =
            (tree.filesBelow config.pagesDir, tree) := rfl
        have created : (Tree.disk.createDirs config.modulesDir).run tree =
            match tree.createDirs config.modulesDir with
            | some tree => (true, tree)
            | none => (false, tree) := rfl
        simp only [Bool.not_true, Bool.false_eq_true, if_false, if_true]
        rw [after_bind, after_lift, found]
        dsimp only
        rw [after_bind, after_lift, created]
        cases tree.createDirs config.modulesDir with
        | none => rfl
        | some ready =>
          simp only [Bool.not_true, Bool.false_eq_true, if_false]
          rw [after_bind, after_lift, sourcesIn]
          dsimp only
          rw [after_bind, after_writeOrFail, finish]
          generalize Tree.write _ _ _ = written
          cases written <;> rfl

/-- A build either stops before it comes to the pages, or creates the directory for the modules and
builds the pages with one asset map. -/
theorem buildWith_cases (config : Config) (tree : Tree) :
    (∃ error, ∀ pages, after (buildWith Tree.disk config pages) tree = (.error error, tree)) ∨
      ∃ assets ready, tree.createDirs config.modulesDir = some ready ∧
        ∀ pages, after (buildWith Tree.disk config pages) tree =
          let ran := (pages assets (sourcesIn config tree)).run ready
          finish config (Report.of ran.1) ran.2 := by
  simp only [after_buildWith]
  split
  · exact .inl ⟨_, fun _ => rfl⟩
  · exact .inl ⟨_, fun _ => rfl⟩
  · rename_i assets _ _
    split
    · cases created : tree.createDirs config.modulesDir with
      | none => exact .inl ⟨_, fun _ => rfl⟩
      | some ready => exact .inr ⟨assets, ready, rfl, fun _ => rfl⟩
    · exact .inl ⟨_, fun _ => rfl⟩

/-- A build that nothing stops before it comes to the pages. -/
theorem after_build_of {tools : Tools} {config : Config} {assets : AssetMap} {tree ready : Tree}
    (loaded : (after (loadAssets Tree.disk config.assetMap) tree).1 = .ok assets)
    (accepted : config.baseOptions.check = .ok ())
    (isDir : (tree.at? config.pagesDir == some .directory) = true)
    (created : tree.createDirs config.modulesDir = some ready) :
    after (build Tree.disk tools config) tree =
      let ran := (buildPages (m := StateM Tree) Tree.disk tools config assets
        (sourcesIn config tree)).run ready
      finish config (Report.of ran.1) ran.2 := by
  rw [build_eq, after_buildWith, loaded, accepted]
  dsimp only
  rw [if_pos isDir, created]

/-! ### A build of a given tree -/

/-- The tree behind a build that goes as expected: the pages come to the given outcomes, and the
manifest of the given report is written. -/
def leftBy? (tools : Tools) (config : Config) (assets : AssetMap) (sources : List Source)
    (outcomes : List (Source × Except BuildError Built)) (report : Report) (tree : Tree) :
    Option Tree :=
  (tree.createDirs config.modulesDir).bind fun ready =>
    let ran := (buildPages (m := StateM Tree) Tree.disk tools config assets sources).run ready
    if ran.1 = outcomes then
      ran.2.write (Path.join config.outputDir "pages.json") (manifestText report.entries)
    else
      none

theorem after_build_of_leftBy? {tools : Tools} {config : Config} {assets : AssetMap}
    {tree left : Tree} {sources : List Source}
    {outcomes : List (Source × Except BuildError Built)} {report : Report}
    (loaded : (after (loadAssets Tree.disk config.assetMap) tree).1 = .ok assets)
    (accepted : config.baseOptions.check = .ok ())
    (isDir : (tree.at? config.pagesDir == some .directory) = true)
    (pages : sourcesIn config tree = sources) (told : Report.of outcomes = report)
    (goes : leftBy? tools config assets sources outcomes report tree = some left) :
    after (build Tree.disk tools config) tree = (.ok report, left) := by
  obtain ⟨ready, created, ends⟩ := Option.bind_eq_some_iff.1 goes
  dsimp only at ends
  split at ends
  · rename_i same
    rw [after_build_of loaded accepted isDir created, pages]
    dsimp only
    rw [same, told, finish, ends]
  · cases ends

/-! ### Plans -/

/-- A program whose outcome and writes hang on nothing but the directories of a tree. It writes to
some of the given places, at most once to each and in their order. -/
structure Plan (tree : Tree) (places : List Place)
    (program : ExceptT BuildError (StateM Tree) α) where
  outcome : Except BuildError α
  files : List (Place × String)
  within : (files.map (·.1)).Sublist places
  free : ∀ file ∈ files, tree.hasDir file.1 = false
  runs : ∀ other : Tree, other.SameDirs tree → after program other = (outcome, other.setAll files)

namespace Plan

variable {tree : Tree} {places more : List Place}

def pure (value : α) : Plan tree [] (Pure.pure value) where
  outcome := .ok value
  files := []
  within := List.Sublist.slnil
  free := by simp
  runs _ _ := rfl

def throw (error : BuildError) :
    Plan tree [] (MonadExcept.throw error : ExceptT BuildError (StateM Tree) α) where
  outcome := .error error
  files := []
  within := List.Sublist.slnil
  free := by simp
  runs _ _ := rfl

/-- A plan may name places that nothing is written to. -/
def widen {program other : ExceptT BuildError (StateM Tree) α} (plan : Plan tree places program)
    (fewer : places.Sublist more) (same : other = program) : Plan tree more other where
  outcome := plan.outcome
  files := plan.files
  within := plan.within.trans fewer
  free := plan.free
  runs := by
    rw [same]
    exact plan.runs

def write (path text : String) :
    Plan tree [placeOf tree.workingDir path] (writeOrFail Tree.disk path text) :=
  match found : tree.target? path with
  | none =>
    { outcome := .error .unwritable
      files := []
      within := List.nil_sublist _
      free := by simp
      runs := by
        intro other same
        rw [after_writeOrFail, Tree.write_eq, Tree.target?_congr same, found]
        rfl }
  | some place =>
    { outcome := .ok ()
      files := [(place, text)]
      within := by
        rw [(Tree.target?_eq_some found).1]
        exact List.Sublist.refl _
      free := by
        intro file mem
        rw [List.mem_singleton.1 mem]
        exact (Tree.target?_eq_some found).2
      runs := by
        intro other same
        rw [after_writeOrFail, Tree.write_eq, Tree.target?_congr same, found]
        rfl }

def result (result : Except BuildError α) : Plan tree [] (ExceptT.mk (Pure.pure result)) where
  outcome := result
  files := []
  within := List.Sublist.slnil
  free := by simp
  runs _ _ := rfl

/-- A program and then another one, which is told what the first came to. -/
def bind {program : ExceptT BuildError (StateM Tree) α}
    {next : α → ExceptT BuildError (StateM Tree) β} (first : Plan tree places program)
    (later : ∀ value, first.outcome = .ok value → Plan tree more (next value)) :
    Plan tree (places ++ more) (program >>= next) :=
  match ended : first.outcome with
  | .error error =>
    { outcome := .error error
      files := first.files
      within := first.within.trans (List.sublist_append_left _ _)
      free := first.free
      runs := by
        intro other same
        rw [after_bind, first.runs other same, ended] }
  | .ok value =>
    let second := later value ended
    { outcome := second.outcome
      files := first.files ++ second.files
      within := by
        rw [List.map_append]
        exact first.within.append second.within
      free := by
        intro file mem
        exact (List.mem_append.1 mem).elim (first.free file) (second.free file)
      runs := by
        intro other same
        have free : ∀ file ∈ first.files, other.hasDir file.1 = false :=
          fun file mem => (same.dirs file.1).trans (first.free file mem)
        have still : (other.setAll first.files).SameDirs tree :=
          (Tree.sameDirs_setAll free).trans same
        rw [after_bind, first.runs other same, ended]
        dsimp only
        rw [second.runs _ still, Tree.setAll_append] }

end Plan

end JsxPages.Project
