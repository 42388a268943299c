import JsxPages.Command.Tools
import JsxPages.Proofs.Project.Outputs
import JsxPages.Proofs.Project.Rendered
/-!
# What a build leaves behind

A page is read, rendered and checked before anything is written. Then its module is written, and
only then is its stylesheet minified. So a page that failed has left nothing, but for one case: a
stylesheet that is refused or cannot be written leaves the module that imports it behind
(`leaves_of_buildPage`). Pages do not meet, so behind a whole build each page has left what it
leaves alone (`WentOn`).
-/

namespace JsxPages.Project

/-- The text that is written for a stylesheet, unless it is refused. -/
def Config.sheetText? (config : Config) (tools : Tools) (stylesheet : String) : Option String :=
  if config.minify then tools.minifyStylesheet stylesheet else some stylesheet

def Config.stylesheetPath (config : Config) (source : Source) : String :=
  Path.join config.modulesDir (source.component ++ ".css")

/-! ### What a page can leave -/

/-- The module of a page is written, and a stylesheet if and only if it imports one. -/
structure IsWritten (tools : Tools) (config : Config) (source : Source)
    (conversion : Document.Conversion) (start left : Tree) : Prop where
  accepted : config.accepts tools (source.moduleText conversion)
  module : left.file? (config.modulePlace start.workingDir source) =
    some (.text (source.moduleText conversion))
  stylesheet : (source.stylesheet? conversion).isSome → ∃ text,
    config.sheetText? tools conversion.stylesheet = some text ∧
      left.file? (config.stylesheetPlace start.workingDir source) = some (.text text)
  noStylesheet : source.stylesheet? conversion = none →
    left.file? (config.stylesheetPlace start.workingDir source) =
      start.file? (config.stylesheetPlace start.workingDir source)

/-- The module of a page is written, and imports a stylesheet that is not. -/
structure LacksStylesheet (tools : Tools) (config : Config) (source : Source)
    (conversion : Document.Conversion) (start left : Tree) (error : BuildError) : Prop where
  accepted : config.accepts tools (source.moduleText conversion)
  module : left.file? (config.modulePlace start.workingDir source) =
    some (.text (source.moduleText conversion))
  imported : (source.stylesheet? conversion).isSome
  unwritten : left.file? (config.stylesheetPlace start.workingDir source) =
    start.file? (config.stylesheetPlace start.workingDir source)
  cause : (error = .invalidStylesheet ∧ config.sheetText? tools conversion.stylesheet = none) ∨
    (error = .unwritable ∧ ∀ text, left.write (config.stylesheetPath source) text = none)

/-- Nothing is written for a page. -/
def IsUntouched (config : Config) (source : Source) (start left : Tree) : Prop :=
  ∀ place ∈ outputs config start.workingDir source, left.file? place = start.file? place

/-! ### Writing -/

section
variable {path text : String} {tree left : Tree} {error : BuildError}

theorem Tree.find?_of_write (written : tree.write path text = some left) (place : Place) :
    left.find? place =
      if place = placeOf tree.workingDir path then some (.text text) else tree.find? place := by
  rw [write_eq] at written
  obtain ⟨target, found, rfl⟩ := Option.map_eq_some_iff.1 written
  obtain ⟨rfl, free⟩ := target?_eq_some found
  exact find?_set (ne_nil_of_not_hasDir free) _ place

theorem Tree.file?_of_write (written : tree.write path text = some left) :
    left.file? (placeOf tree.workingDir path) = some (.text text) := by
  rw [file?, find?_of_write written, if_pos rfl]
  rfl

theorem Tree.file?_of_write_of_ne (written : tree.write path text = some left) {place : Place}
    (other : place ≠ placeOf tree.workingDir path) : left.file? place = tree.file? place :=
  file?_congr ((find?_of_write written place).trans (if_neg other))

theorem Tree.write_eq_none_iff : tree.write path text = none ↔ tree.target? path = none := by
  rw [write_eq, Option.map_eq_none_iff]

theorem Tree.sameDirs_of_write (written : tree.write path text = some left) :
    left.SameDirs tree := by
  rw [write_eq] at written
  obtain ⟨target, found, rfl⟩ := Option.map_eq_some_iff.1 written
  exact sameDirs_set (target?_eq_some found).2 text

theorem write_of_writeOrFail {written : Unit}
    (done : after (writeOrFail Tree.disk path text) tree = (.ok written, left)) :
    tree.write path text = some left := by
  rw [after_writeOrFail] at done
  split at done
  · rename_i written
    cases done
    exact written
  · cases done

theorem unwritable_of_writeOrFail
    (failed : after (writeOrFail Tree.disk path text) tree = (.error error, left)) :
    error = .unwritable ∧ left = tree ∧ ∀ text, tree.write path text = none := by
  rw [after_writeOrFail] at failed
  split at failed
  · cases failed
  · rename_i unwritten
    cases failed
    exact ⟨rfl, rfl, fun _ => Tree.write_eq_none_iff.2 (Tree.write_eq_none_iff.1 unwritten)⟩

end

/-! ### One page -/

section
variable {tools : Tools} {config : Config} {assets : AssetMap} {source : Source}
  {start tree left : Tree} {conversion : Document.Conversion} {error : BuildError}

theorem writeStylesheet_rendered (source : Source) (conversion : Document.Conversion) :
    writeStylesheet Tree.disk tools config (rendered source conversion) =
      if (source.stylesheet? conversion).isSome then
        match config.sheetText? tools conversion.stylesheet with
        | none => throw .invalidStylesheet
        | some text => writeOrFail Tree.disk (config.stylesheetPath source) text
      else
        pure () := by
  have sheet : (rendered source conversion).stylesheet =
      (source.stylesheet? conversion).map (·, conversion.stylesheet) := rfl
  rw [writeStylesheet, sheet, Source.stylesheet?]
  cases conversion.tables.classes.size != 0 <;> rfl

theorem written_of_writeStylesheet {written : Unit}
    (done : after (writeStylesheet Tree.disk tools config (rendered source conversion)) tree =
      (.ok written, left)) :
    (source.stylesheet? conversion = none ∧ left = tree) ∨
      ∃ text, (source.stylesheet? conversion).isSome ∧
        config.sheetText? tools conversion.stylesheet = some text ∧
        tree.write (config.stylesheetPath source) text = some left := by
  rw [writeStylesheet_rendered] at done
  split at done
  · rename_i imported
    split at done
    · cases done
    · rename_i text minified
      exact .inr ⟨text, imported, minified, write_of_writeOrFail done⟩
  · rename_i notImported
    cases done
    exact .inl ⟨by simpa using notImported, rfl⟩

theorem unstyled_of_writeStylesheet
    (failed : after (writeStylesheet Tree.disk tools config (rendered source conversion)) tree =
      (.error error, left)) :
    left = tree ∧ (source.stylesheet? conversion).isSome ∧
      ((error = .invalidStylesheet ∧ config.sheetText? tools conversion.stylesheet = none) ∨
        (error = .unwritable ∧ ∀ text, tree.write (config.stylesheetPath source) text = none)) := by
  rw [writeStylesheet_rendered] at failed
  split at failed
  · rename_i imported
    split at failed
    · rename_i refused
      cases failed
      exact ⟨rfl, imported, .inl ⟨rfl, refused⟩⟩
    · obtain ⟨unwritable, same, never⟩ := unwritable_of_writeOrFail failed
      exact ⟨same, imported, .inr ⟨unwritable, never⟩⟩
  · cases failed

theorem rendered_of_render {html : String} {result : Rendered}
    (done : render tools config assets source html = .ok result) :
    config.accepts tools (source.moduleText (config.conversion assets source html)) ∧
      result = rendered source (config.conversion assets source html) := by
  rcases render_cases tools config assets source html with
    ⟨_, _, same⟩ | ⟨_, same⟩ | ⟨accepted, same⟩
  · rw [same] at done
    cases done
  · rw [same] at done
    cases done
  · rw [same] at done
    exact ⟨accepted, (Except.ok.inj done).symm⟩

theorem read_of_readText {html : String}
    (done : after (readText Tree.disk source.path) tree = (.ok html, left)) :
    tree.read source.path = .ok html ∧ left = tree := by
  rw [after_readText] at done
  cases read : tree.read source.path with
  | error fault =>
    rw [read] at done
    cases done
  | ok text =>
    rw [read] at done
    cases done
    exact ⟨rfl, rfl⟩

theorem modulePlace_ne (mem : source ∈ sourcesIn config start) (workingDir : Place) :
    config.modulePlace workingDir source ≠
      placeOf workingDir (config.stylesheetPath source) := by
  have distinct := (List.nodup_flatMap.1 (nodup_outputs config start workingDir)).1 source mem
  rw [outputs_eq_places] at distinct
  exact List.pairwise_pair.1 distinct

/-- A page that is built has left its files. -/
theorem isWritten_of_buildPage {built : Built} (mem : source ∈ sourcesIn config start)
    (done : after (buildPage Tree.disk tools config assets source) tree = (.ok built, left)) :
    ∃ html, tree.read source.path = .ok html ∧
      IsWritten tools config source (config.conversion assets source html) tree left := by
  rw [buildPage_eq] at done
  obtain ⟨html, middle, read, written⟩ := after_bind_ok done
  obtain ⟨text, rfl⟩ := read_of_readText read
  obtain ⟨result, unchanged, told, output⟩ := after_bind_ok written
  obtain ⟨rendering, rfl⟩ := Prod.mk.inj told
  obtain ⟨accepted, rfl⟩ := rendered_of_render rendering
  obtain ⟨_, behind, moduleWritten, rest⟩ := after_bind_ok output
  have module := write_of_writeOrFail moduleWritten
  obtain ⟨_, _, styled, ends⟩ := after_bind_ok rest
  cases ends
  refine ⟨html, text, ?_⟩
  rcases written_of_writeStylesheet styled with
    ⟨notImported, rfl⟩ | ⟨sheet, imported, minified, written⟩
  · refine ⟨accepted, Tree.file?_of_write module, fun imported => ?_, fun _ => ?_⟩
    · rw [notImported] at imported
      cases imported
    · exact Tree.file?_of_write_of_ne module (modulePlace_ne mem _).symm
  · have sameDir := (Tree.sameDirs_of_write module).workingDir
    have stylesheet := Tree.file?_of_write written
    rw [sameDir] at stylesheet
    refine ⟨accepted, ?_, fun _ => ⟨sheet, minified, stylesheet⟩, fun none => ?_⟩
    -- the stylesheet goes to another place, so the module is still there
    · rw [Tree.file?_of_write_of_ne written (sameDir ▸ modulePlace_ne mem _)]
      exact Tree.file?_of_write module
    · rw [none] at imported
      cases imported

theorem unread_of_readText
    (failed : after (readText Tree.disk source.path) tree = (.error error, left)) :
    left = tree ∧ error ≠ .invalidStylesheet := by
  obtain ⟨fault, rfl⟩ := error_of_readText failed
  rw [after_readText] at failed
  exact ⟨(congrArg Prod.snd failed).symm, by simp⟩

theorem ne_invalidStylesheet_of_render {html : String}
    (failed : render tools config assets source html = .error error) :
    error ≠ .invalidStylesheet := by
  rintro rfl
  rcases render_cases tools config assets source html with ⟨_, _, same⟩ | ⟨_, same⟩ | ⟨_, same⟩
  all_goals
    rw [same] at failed
    cases failed

/-- A page that failed has left nothing, or a module and not the stylesheet that it imports. -/
theorem leaves_of_buildPage (mem : source ∈ sourcesIn config start)
    (failed : after (buildPage Tree.disk tools config assets source) tree = (.error error, left)) :
    (left = tree ∧ error ≠ .invalidStylesheet) ∨
      ∃ html, tree.read source.path = .ok html ∧
        LacksStylesheet tools config source (config.conversion assets source html) tree left
          error := by
  rw [buildPage_eq] at failed
  rcases error_of_bind failed with unread | ⟨html, middle, read, unwritten⟩
  · exact .inl (unread_of_readText unread)
  obtain ⟨text, rfl⟩ := read_of_readText read
  rcases error_of_bind unwritten with refused | ⟨result, unchanged, told, unsent⟩
  · obtain ⟨rendering, same⟩ := Prod.mk.inj refused
    exact .inl ⟨same.symm, ne_invalidStylesheet_of_render rendering⟩
  obtain ⟨rendering, rfl⟩ := Prod.mk.inj told
  obtain ⟨accepted, rfl⟩ := rendered_of_render rendering
  rcases error_of_bind unsent with moduleUnwritten | ⟨_, behind, moduleWritten, unstyled⟩
  · obtain ⟨rfl, same, _⟩ := unwritable_of_writeOrFail moduleUnwritten
    exact .inl ⟨same, by simp⟩
  -- from here on the module is there, whatever comes of the stylesheet
  have module := write_of_writeOrFail moduleWritten
  rcases error_of_bind unstyled with stylesheetUnwritten | ⟨_, _, _, ends⟩
  · obtain ⟨rfl, imported, cause⟩ := unstyled_of_writeStylesheet stylesheetUnwritten
    exact .inr ⟨html, text, accepted, Tree.file?_of_write module, imported,
      Tree.file?_of_write_of_ne module (modulePlace_ne mem _).symm, cause⟩
  · cases ends

/-! ### All pages -/

theorem IsWritten.congr {ready behind : Tree}
    (written : IsWritten tools config source conversion ready behind)
    (created : start.createDirs config.modulesDir = some ready)
    (files : ∀ place ∈ outputs config ready.workingDir source,
      left.file? place = behind.file? place) :
    IsWritten tools config source conversion start left := by
  have module := files _ (modulePlace_mem_outputs config _ source)
  have stylesheet := files _ (stylesheetPlace_mem_outputs config _ source)
  obtain ⟨accepted, moduleWritten, sheetWritten, noSheet⟩ := written
  have sameDir := (Tree.hasDirsOf_createDirs created).workingDir
  rw [sameDir] at module stylesheet moduleWritten sheetWritten noSheet
  refine ⟨accepted, module.trans moduleWritten, fun imported => ?_, fun none => ?_⟩
  · rw [stylesheet]
    exact sheetWritten imported
  · rw [stylesheet, noSheet none, Tree.file?_createDirs created]

theorem LacksStylesheet.congr {ready behind : Tree}
    (lacks : LacksStylesheet tools config source conversion ready behind error)
    (created : start.createDirs config.modulesDir = some ready)
    (files : ∀ place ∈ outputs config ready.workingDir source,
      left.file? place = behind.file? place)
    (sameDirs : left.SameDirs behind) :
    LacksStylesheet tools config source conversion start left error := by
  have module := files _ (modulePlace_mem_outputs config _ source)
  have stylesheet := files _ (stylesheetPlace_mem_outputs config _ source)
  obtain ⟨accepted, moduleWritten, imported, unwritten, cause⟩ := lacks
  have sameDir := (Tree.hasDirsOf_createDirs created).workingDir
  rw [sameDir] at module stylesheet moduleWritten unwritten
  refine ⟨accepted, module.trans moduleWritten, imported, ?_, ?_⟩
  · rw [stylesheet, unwritten, Tree.file?_createDirs created]
  · refine cause.imp_right fun ⟨unwritable, never⟩ => ⟨unwritable, fun text => ?_⟩
    rw [Tree.write_eq_none_iff, Tree.target?_congr sameDirs]
    exact Tree.write_eq_none_iff.1 (never text)

end

/-- What the manifest tells of is what was built. -/
theorem mem_entries_iff {outcomes : List (Source × Except BuildError Built)} {entry : Entry} :
    entry ∈ (Report.of outcomes).entries ↔
      ∃ source built, (source, .ok built) ∈ outcomes ∧ built.entry = entry := by
  have sorted : entry ∈ (Report.of outcomes).entries ↔
      entry ∈ (builtPages outcomes).map (·.entry) := List.mem_mergeSort
  rw [sorted, List.mem_map]
  constructor
  · rintro ⟨built, isBuilt, rfl⟩
    obtain ⟨⟨source, outcome⟩, mem, ended⟩ := List.mem_filterMap.1 isBuilt
    cases outcome with
    | error error => cases ended
    | ok page =>
      obtain rfl := Option.some.inj ended
      exact ⟨source, page, mem, rfl⟩
  · rintro ⟨source, built, mem, rfl⟩
    exact ⟨built, List.mem_filterMap.2 ⟨_, mem, rfl⟩, rfl⟩

theorem mem_failures_iff {outcomes : List (Source × Except BuildError Built)}
    {failure : String × BuildError} :
    failure ∈ (Report.of outcomes).failures ↔
      ∃ source error, (source, .error error) ∈ outcomes ∧ failure = (source.path, error) := by
  refine List.mem_filterMap.trans ⟨?_, ?_⟩
  · rintro ⟨⟨source, outcome⟩, mem, ended⟩
    cases outcome with
    | ok page => cases ended
    | error error =>
      cases ended
      exact ⟨source, error, mem, rfl⟩
  · rintro ⟨source, error, mem, rfl⟩
    exact ⟨_, mem, rfl⟩

/-- How a build that gives a report went: each page came to what it comes to alone once the
directory for modules is there, and left what it leaves alone. -/
structure WentOn (tools : Tools) (config : Config) (assets : AssetMap) (tree ready left : Tree)
    (report : Report) : Prop where
  entries : ∀ entry ∈ report.entries, ∃ source ∈ sourcesIn config tree, ∃ built,
    (after (buildPage Tree.disk tools config assets source) ready).1 = .ok built ∧
      built.entry = entry
  failures : ∀ failure ∈ report.failures, ∃ source ∈ sourcesIn config tree,
    (after (buildPage Tree.disk tools config assets source) ready).1 = .error failure.2 ∧
      failure.1 = source.path
  files : ∀ source ∈ sourcesIn config tree, ∀ place ∈ outputs config ready.workingDir source,
    left.file? place = (after (buildPage Tree.disk tools config assets source) ready).2.file? place
  sameDirs : ∀ source,
    left.SameDirs (after (buildPage Tree.disk tools config assets source) ready).2
  others : ∀ place ≠ config.manifestPlace ready.workingDir,
    (∀ source ∈ sourcesIn config tree, place ∉ outputs config ready.workingDir source) →
      left.file? place = ready.file? place

section
variable {tools : Tools} {config : Config} {assets : AssetMap} {tree ready left : Tree}
  {report : Report}

theorem wentOn_of_finish (found : Found config tree ready)
    (done : let ran := (buildPages (m := StateM Tree) Tree.disk tools config assets
        (sourcesIn config tree)).run ready
      finish config (Report.of ran.1) ran.2 = (.ok report, left)) :
    WentOn tools config assets tree ready left report := by
  have alone (source : Source) :
      after (buildPage Tree.disk tools config assets source) ready =
        ((pageRun tools config assets ready source).1,
          ready.setAll (pageRun tools config assets ready source).2) :=
    after_buildPage tools config assets (Tree.SameDirs.refl ready) rfl
  have free := free_files tools config assets ready (sourcesIn config tree)
  have sameDirs := Tree.sameDirs_setAll free
  rw [found.run_buildPages (List.Subset.refl _) (Undisturbed.refl config tree ready)] at done
  obtain ⟨rfl, written⟩ := write_of_finish done
  have other (place : Place) (notManifest : place ≠ config.manifestPlace ready.workingDir) :=
    Tree.file?_of_write_of_ne written (sameDirs.workingDir ▸ notManifest)
  refine ⟨fun entry told => ?_, fun failure told => ?_, fun source mem place isOutput => ?_,
    fun source => ?_, fun place notManifest notOutput => ?_⟩
  · obtain ⟨_, built, isThere, same⟩ := mem_entries_iff.1 told
    obtain ⟨source, mem, pair⟩ := List.mem_map.1 isThere
    obtain ⟨rfl, ended⟩ := Prod.mk.inj pair
    exact ⟨source, mem, built, (congrArg Prod.fst (alone source)).trans ended, same⟩
  · obtain ⟨_, error, isThere, rfl⟩ := mem_failures_iff.1 told
    obtain ⟨source, mem, pair⟩ := List.mem_map.1 isThere
    obtain ⟨rfl, ended⟩ := Prod.mk.inj pair
    exact ⟨source, mem, (congrArg Prod.fst (alone source)).trans ended, rfl⟩
  · have notManifest : place ≠ config.manifestPlace ready.workingDir := by
      rintro rfl
      exact manifestPlace_notMem_outputs mem isOutput
    rw [other place notManifest]
    exact Tree.file?_congr (find?_setAll_pages tools assets ready mem isOutput)
  · rw [alone]
    exact ((Tree.sameDirs_of_write written).trans sameDirs).trans
      (Tree.sameDirs_setAll free_pageRun).symm
  · rw [other place notManifest]
    refine Tree.file?_congr (Tree.find?_setAll_of_notMem free fun file isFile same => ?_)
    obtain ⟨source, mem, isFile⟩ := List.mem_flatMap.1 isFile
    refine notOutput source mem ?_
    rw [← same]
    exact (within_pageRun tools config assets ready source).subset (List.mem_map_of_mem isFile)

/-- A build that gives a report has loaded the asset map and created the directory for modules, and
went on from there. -/
theorem wentOn_of_build (ordinary : tree.IsOrdinary)
    (done : after (build Tree.disk tools config) tree = (.ok report, left)) :
    ∃ assets ready, (after (loadAssets Tree.disk config.assetMap) tree).1 = .ok assets ∧
      tree.createDirs config.modulesDir = some ready ∧
      WentOn tools config assets tree ready left report := by
  rw [build_eq, after_buildWith] at done
  split at done
  · cases done
  · cases done
  rename_i assets loaded _
  split at done
  · split at done
    · cases done
    · rename_i ready created
      exact ⟨assets, ready, loaded, created,
        wentOn_of_finish (found_of_createDirs ordinary created) done⟩
  · cases done

end

/-- **What a build leaves behind.** If a build gives a report, then every page in the manifest has
its module where the manifest says, and a stylesheet beside it if and only if the module imports
one. A page among the failures has left nothing, but for one case: if its stylesheet is refused, or
cannot be written, then its module is written and the stylesheet that it imports is not. All other
files but the manifest are as they were. -/
theorem build_leaves (tools : Tools) (config : Config) {tree left : Tree} {report : Report}
    (ordinary : tree.IsOrdinary)
    (done : after (build Tree.disk tools config) tree = (.ok report, left)) :
    ∃ assets, (after (loadAssets Tree.disk config.assetMap) tree).1 = .ok assets ∧
      (∀ entry ∈ report.entries, ∃ source ∈ sourcesIn config tree, ∃ html,
        entry = source.entry ∧ tree.read source.path = .ok html ∧
          placeOf tree.workingDir (Path.join config.outputDir entry.module) =
            config.modulePlace tree.workingDir source ∧
          IsWritten tools config source (config.conversion assets source html) tree left) ∧
      (∀ failure ∈ report.failures, ∃ source ∈ sourcesIn config tree, failure.1 = source.path ∧
        ((IsUntouched config source tree left ∧ failure.2 ≠ .invalidStylesheet) ∨
          ∃ html, tree.read source.path = .ok html ∧
            LacksStylesheet tools config source (config.conversion assets source html) tree left
              failure.2)) ∧
      ∀ place ≠ config.manifestPlace tree.workingDir,
        (∀ source ∈ sourcesIn config tree, place ∉ outputs config tree.workingDir source) →
          left.file? place = tree.file? place := by
  obtain ⟨assets, ready, loaded, created, went⟩ := wentOn_of_build ordinary done
  have before := Tree.file?_createDirs created
  have sameDir := (Tree.hasDirsOf_createDirs created).workingDir
  have others := went.others
  rw [sameDir] at others
  refine ⟨assets, loaded, fun entry told => ?_, fun failure told => ?_,
    fun place notManifest notOutput =>
      (others place notManifest notOutput).trans (before place)⟩
  · obtain ⟨source, mem, built, ended, same⟩ := went.entries entry told
    have alone : after (buildPage Tree.disk tools config assets source) ready =
        (.ok built, (after (buildPage Tree.disk tools config assets source) ready).2) :=
      Prod.ext ended rfl
    obtain ⟨html, text, written⟩ := isWritten_of_buildPage mem alone
    obtain rfl : source.entry = entry := (entry_of_buildPage alone).symm.trans same
    exact ⟨source, mem, html, rfl, (read_source ordinary created mem) ▸ text,
      placeOf_entryModule mem, written.congr created (went.files source mem)⟩
  · obtain ⟨source, mem, ended, path⟩ := went.failures failure told
    have alone : after (buildPage Tree.disk tools config assets source) ready =
        (.error failure.2, (after (buildPage Tree.disk tools config assets source) ready).2) :=
      Prod.ext ended rfl
    refine ⟨source, mem, path, ?_⟩
    rcases leaves_of_buildPage mem alone with ⟨same, cause⟩ | ⟨html, text, lacks⟩
    · refine .inl ⟨fun place isOutput => ?_, cause⟩
      rw [went.files source mem place (sameDir ▸ isOutput), same, before]
    · exact .inr ⟨html, (read_source ordinary created mem) ▸ text,
        lacks.congr created (went.files source mem) (went.sameDirs source)⟩

/-! ### A stylesheet that is refused -/

/-- A page whose stylesheet closes its block too early, and one with a proper stylesheet. -/
def closedEarly : Tree :=
  { nodes := [(["pages"], .directory), (["pages", "index.html"], .text "<i style='--x: \x7d'></i>"),
      (["pages", "styled.html"], .text "<p style='--x:1'>")] }

def minifying : Config :=
  { minify := true }

/-- What a build of them comes to. -/
def closedEarlyReport : Report :=
  { entries := [⟨"/styled", "Styled", "src/pages/Styled.jsx", "styled.html"⟩]
    images := 0
    classes := 1
    failures := [("pages/index.html", .invalidStylesheet)] }

/-- The module of the page whose stylesheet is refused. -/
def closedEarlyModule : String :=
  "import './Index.css';\n\nexport default function Index() \x7b\n  return (\n" ++
    "    <><i className=\"custom-var-index-1\"></i></>\n  );\n\x7d\n"

theorem sourcesIn_closedEarly :
    sourcesIn minifying closedEarly =
      Source.ofPlaces "pages" [] [["index.html"], ["styled.html"]] :=
  sourcesIn_of_sorted (by decide +kernel) (by decide +kernel)

theorem build_closedEarly :
    ∃ left, after (build Tree.disk Command.tools minifying) closedEarly =
        (.ok closedEarlyReport, left) ∧
      left.find? ["out", "src", "pages", "Index.jsx"] = some (.text closedEarlyModule) ∧
      left.find? ["out", "src", "pages", "Index.css"] = none := by
  let sources := Source.ofPlaces "pages" [] [["index.html"], ["styled.html"]]
  let outcomes : List (Source × Except BuildError Built) := sources.zip
    [.error .invalidStylesheet, .ok ⟨closedEarlyReport.entries[0], [], 1⟩]
  have told : Report.of outcomes = closedEarlyReport :=
    Report.of_eq (by decide +kernel) (by decide +kernel) (by decide +kernel)
  have goes : (leftBy? Command.tools minifying {} sources outcomes closedEarlyReport
      closedEarly).map (fun left : Tree =>
        (left.find? ["out", "src", "pages", "Index.jsx"],
          left.find? ["out", "src", "pages", "Index.css"])) =
      some (some (.text closedEarlyModule), none) := by
    decide +kernel
  obtain ⟨left, goes, stands⟩ := Option.map_eq_some_iff.1 goes
  obtain ⟨module, stylesheet⟩ := Prod.mk.inj stands
  exact ⟨left, after_build_of_leftBy? rfl (by decide) (by decide +kernel) sourcesIn_closedEarly told
    goes, module, stylesheet⟩

theorem isOrdinary_closedEarly : closedEarly.IsOrdinary :=
  ⟨by decide +kernel, by decide +kernel⟩

/-- The page that failed has its module, and the page that was built both files. -/
theorem build_leaves_closedEarly :
    closedEarly.IsOrdinary ∧
      ∃ left, after (build Tree.disk Command.tools minifying) closedEarly =
          (.ok closedEarlyReport, left) ∧
        (∃ source conversion,
          IsWritten Command.tools minifying source conversion closedEarly left) ∧
        ∃ source conversion, source.path = "pages/index.html" ∧
          LacksStylesheet Command.tools minifying source conversion closedEarly left
            .invalidStylesheet := by
  obtain ⟨left, done, _⟩ := build_closedEarly
  obtain ⟨assets, _, built, failed, _⟩ :=
    build_leaves Command.tools minifying isOrdinary_closedEarly done
  obtain ⟨source, _, html, _, _, _, written⟩ := built _ List.mem_cons_self
  obtain ⟨another, _, path, leaves⟩ := failed _ List.mem_cons_self
  refine ⟨isOrdinary_closedEarly, left, done, ⟨source, _, written⟩, another, ?_⟩
  rcases leaves with ⟨_, otherwise⟩ | ⟨html, _, lacks⟩
  · exact absurd rfl otherwise
  · exact ⟨_, path.symm, lacks⟩

/-- A page is among the failures, and its module is there, which was not there before. -/
theorem exists_failure_with_module :
    ∃ report left, after (build Tree.disk Command.tools minifying) closedEarly =
        (.ok report, left) ∧
      "pages/index.html" ∈ report.failures.map (·.1) ∧
      closedEarly.find? ["out", "src", "pages", "Index.jsx"] = none ∧
      left.find? ["out", "src", "pages", "Index.jsx"] = some (.text closedEarlyModule) := by
  obtain ⟨left, done, module, _⟩ := build_closedEarly
  exact ⟨closedEarlyReport, left, done, by decide, by decide, module⟩

end JsxPages.Project
