import JsxPages.Proofs.Project.Order
import JsxPages.Proofs.Text.Cuts
/-!
# Routes

A route spells an address: the names on the way to the page, the last one without its extension,
and no index at the end (`Source.routeOf_stem`). Names hold no slash, so two routes are the same if
and only if their addresses are (`Source.routeOf_stem_inj`).

Two pages may have one address. The page of a directory can lie in it as its index or beside it
under its name, and a name can have either of two extensions. Routes are given to such pages as they
are, so those of a manifest differ if and only if no two of the pages that were built have one
address (`routes_distinct_iff`).
-/

namespace JsxPages.Project

/-! ### Names between slashes -/

/-- Whether a text can stand between two slashes. -/
def IsSegment (name : String) : Prop :=
  name ≠ "" ∧ '/' ∉ name.toList

theorem IsName.isSegment {name : String} (ordinary : IsName name) : IsSegment name :=
  ⟨ordinary.1, ordinary.2.2.2⟩

theorem ne_nil_of_intercalate {names : List String} (ordinary : ∀ name ∈ names, IsSegment name)
    (some : names ≠ []) : "/".intercalate names ≠ "" := by
  intro empty
  have spelled := segments_intercalate some fun name mem => (ordinary name mem).2
  rw [empty] at spelled
  obtain rfl : names = [""] := spelled.symm
  exact (ordinary "" List.mem_cons_self).1 rfl

theorem intercalate_inj {names others : List String} (ordinary : ∀ name ∈ names, IsSegment name)
    (ordinary' : ∀ name ∈ others, IsSegment name) :
    "/".intercalate names = "/".intercalate others ↔ names = others := by
  refine ⟨fun same => ?_, congrArg _⟩
  by_cases some : names = []
  · by_contra differ
    have some' : others ≠ [] := fun none => differ (some.trans none.symm)
    exact ne_nil_of_intercalate ordinary' some' (by rw [← same, some]; rfl)
  · have some' : others ≠ [] := by
      rintro rfl
      exact ne_nil_of_intercalate ordinary some same
    rw [← segments_intercalate some fun name mem => (ordinary name mem).2, same,
      segments_intercalate some' fun name mem => (ordinary' name mem).2]

namespace Source

/-! ### Addresses -/

/-- The names on the way to a page, the last one without its extension. A single point that is left
of the last one stands for the directory. -/
def stemNames (place : Place) : List String :=
  match place.getLast? with
  | some name =>
    if Path.stemOf name = "." ∧ place.length ≠ 1 then place.dropLast
    else place.dropLast ++ [Path.stemOf name]
  | none => []

/-- The names without an index at their end. -/
def dropIndex (names : List String) : List String :=
  if names.getLast? = some "index" then names.dropLast else names

/-- Where a page is looked for. -/
def address (place : Place) : List String :=
  dropIndex (stemNames place)

theorem stem_eq (place : Place) : stem place = "/".intercalate (stemNames place) := by
  cases ends : place.getLast? with
  | none => simp [stem, stemNames, ends]
  | some name =>
    simp only [stem, stemNames, ends]
    split <;> rfl

theorem isSegment_stemOf {name : String} (ordinary : IsSegment name) :
    IsSegment (Path.stemOf name) := by
  unfold Path.stemOf Path.splitName
  split
  · exact ordinary
  · exact ordinary
  · rename_i stem ending notHidden cut
    have whole := Text.cutLast_eq_some cut
    refine ⟨fun empty => notHidden ?_, fun slash => ordinary.2 ?_⟩
    · simpa using congrArg String.toList empty
    · rw [whole]
      exact List.mem_append_left _ (by simpa using slash)

theorem isSegment_stemNames {place : Place} (ordinary : ∀ name ∈ place, IsSegment name) :
    ∀ name ∈ stemNames place, IsSegment name := by
  have before : ∀ name ∈ place.dropLast, IsSegment name :=
    fun name mem => ordinary name (List.dropLast_subset _ mem)
  unfold stemNames
  split
  · rename_i last ends
    split
    · exact before
    · refine List.forall_mem_append.2 ⟨before, List.forall_mem_singleton.2 ?_⟩
      exact isSegment_stemOf (ordinary last (List.mem_of_getLast? ends))
  · simp

theorem isSegment_address {place : Place} (ordinary : ∀ name ∈ place, IsSegment name) :
    ∀ name ∈ address place, IsSegment name := by
  have names := isSegment_stemNames ordinary
  unfold address dropIndex
  split
  · exact fun name mem => names name (List.dropLast_subset _ mem)
  · exact names

/-! ### Routes -/

/-- An index at the end of a path is a name of its own. -/
theorem beforeEnding_intercalate {names : List String}
    (ordinary : ∀ name ∈ names, IsSegment name) (notIndex : names.getLast? ≠ some "index") :
    Text.beforeEnding "/index".toList ("/".intercalate names).toList = none := by
  by_contra found
  obtain ⟨before, cut⟩ := Option.ne_none_iff_exists'.1 found
  have whole : "/".intercalate names = String.ofList before ++ "/" ++ "index" := by
    apply String.toList_injective
    rw [Text.beforeEnding_eq_some_iff.1 cut]
    simp
  have some : names ≠ [] := by
    rintro rfl
    have empty := congrArg String.toList whole
    simp at empty
  have spelled := segments_intercalate some fun name mem => (ordinary name mem).2
  rw [whole, segments_slash, segments_of_notMem (by decide : '/' ∉ "index".toList)] at spelled
  rw [← spelled, List.getLast?_concat] at notIndex
  exact notIndex rfl

theorem routeOf_intercalate {names : List String} (ordinary : ∀ name ∈ names, IsSegment name) :
    routeOf ("/".intercalate names) = "/" ++ "/".intercalate (dropIndex names) := by
  by_cases index : names.getLast? = some "index"
  · obtain ⟨front, rfl⟩ := List.getLast?_eq_some_iff.1 index
    rw [dropIndex, if_pos index, List.dropLast_concat]
    by_cases none : front = []
    · subst none
      decide
    have whole : "/".intercalate (front ++ ["index"]) =
        "/".intercalate front ++ "/" ++ "index" := by
      rw [String.intercalate_append_of_ne_nil none (by simp), String.intercalate_singleton]
    have notAlone : "/".intercalate (front ++ ["index"]) ≠ "index" := by
      intro alone
      have one : front ++ ["index"] = ["index"] :=
        (intercalate_inj ordinary (List.forall_mem_singleton.2 ⟨by decide, by decide⟩)).1
          (alone.trans String.intercalate_singleton.symm)
      exact none (by simpa using one)
    have cut : Text.beforeEnding "/index".toList ("/".intercalate (front ++ ["index"])).toList =
        some ("/".intercalate front).toList := by
      refine Text.beforeEnding_eq_some_iff.2 ?_
      rw [whole]
      simp
    rw [routeOf, if_neg notAlone, cut, Option.getD_some, String.ofList_toList]
  · have notAlone : "/".intercalate names ≠ "index" := by
      intro alone
      have one : names = ["index"] :=
        (intercalate_inj ordinary (List.forall_mem_singleton.2 ⟨by decide, by decide⟩)).1
          (alone.trans String.intercalate_singleton.symm)
      exact index (by rw [one]; rfl)
    rw [routeOf, if_neg notAlone, beforeEnding_intercalate ordinary index, Option.getD_none,
      String.ofList_toList, dropIndex, if_neg index]

/-- **A route spells an address.** -/
theorem routeOf_stem {place : Place} (ordinary : ∀ name ∈ place, IsSegment name) :
    routeOf (stem place) = "/" ++ "/".intercalate (address place) := by
  rw [stem_eq, routeOf_intercalate (isSegment_stemNames ordinary)]
  rfl

/-- Two pages have one route if and only if they have one address. -/
theorem routeOf_stem_inj {place other : Place} (ordinary : ∀ name ∈ place, IsSegment name)
    (ordinary' : ∀ name ∈ other, IsSegment name) :
    routeOf (stem place) = routeOf (stem other) ↔ address place = address other := by
  rw [routeOf_stem ordinary, routeOf_stem ordinary', String.append_right_inj,
    intercalate_inj (isSegment_address ordinary) (isSegment_address ordinary')]

end Source

/-! ### The pages that a build tells of -/

variable {tools : Tools} {config : Config} {assets : AssetMap} {tree left : Tree}

/-- A build tells of each page what there is to tell of it, whatever was built before. -/
theorem outcomes_buildPages (tools : Tools) (config : Config) (assets : AssetMap)
    (order : List Source) (tree : Tree) :
    let outcomes :=
      ((buildPages (m := StateM Tree) Tree.disk tools config assets order).run tree).1
    outcomes.map (·.1) = order ∧
      ∀ outcome ∈ outcomes, ∀ built, outcome.2 = .ok built → built.entry = outcome.1.entry := by
  induction order generalizing tree with
  | nil => exact ⟨rfl, nofun⟩
  | cons source order ih =>
    rw [run_buildPages_cons]
    obtain ⟨same, told⟩ :=
      ih (after (buildPage Tree.disk tools config assets source) tree).2
    refine ⟨congrArg (source :: ·) same, List.forall_mem_cons.2 ⟨fun built done => ?_, told⟩⟩
    exact entry_of_buildPage (Prod.ext done rfl)

/-- Where no page is met twice, what a page comes to is a function of the page. -/
theorem exists_outcome {outcomes : List (Source × Except BuildError Built)}
    (distinct : (outcomes.map (·.1)).Nodup) :
    ∃ outcome : Source → Except BuildError Built,
      outcomes = (outcomes.map (·.1)).map (fun source => (source, outcome source)) ∧
        ∀ source built, outcome source = .ok built → (source, .ok built) ∈ outcomes := by
  refine ⟨fun source => (outcomes.lookup source).getD (.error .unwritable), ?_, ?_⟩
  · have each : ∀ outcome ∈ outcomes,
        (outcome.1, (outcomes.lookup outcome.1).getD (.error .unwritable)) = outcome := by
      intro outcome mem
      rw [lookup_of_mem distinct mem]
      rfl
    rw [List.map_map]
    exact ((List.map_congr_left each).trans (List.map_id _)).symm
  · intro source built done
    dsimp only at done
    cases found : outcomes.lookup source with
    | none =>
      rw [found] at done
      cases done
    | some outcome =>
      rw [found] at done
      obtain rfl : outcome = .ok built := done
      exact mem_of_lookup found

theorem nodup_sourcesIn (config : Config) (tree : Tree) : (sourcesIn config tree).Nodup := by
  have distinct := (components_ofPlaces config.pagesDir []
    (((tree.filesBelow config.pagesDir).filter Source.isPage).mergeSort Source.notAfter)).2
  exact distinct.imp fun differ same => differ (congrArg _ same)

theorem exists_place {source : Source}
    (names : ∀ entry ∈ tree.nodes, ∀ name ∈ entry.1, IsName name)
    (mem : source ∈ sourcesIn config tree) :
    (∀ name ∈ source.place, IsSegment name) ∧
      source.route = Source.routeOf (Source.stem source.place) := by
  obtain ⟨_, place, isFile, _, rfl⟩ := exists_ofPlace_of_discover mem
  obtain ⟨base, node, _, isNode⟩ := Tree.mem_filesBelow isFile
  exact ⟨fun name mem => (names _ isNode name (List.mem_append_right base mem)).isSegment, rfl⟩

/-- A report tells of every page, in the manifest if it was built and as a failure if not, and the
manifest is what is written last. -/
theorem exists_isBuilt {report : Report}
    (done : after (build Tree.disk tools config) tree = (.ok report, left)) :
    (∃ before : Tree, before.write (Path.join config.outputDir "pages.json")
        (manifestText report.entries) = some left) ∧
      ∃ isBuilt : Source → Bool,
        report.entries.Perm (((sourcesIn config tree).filter isBuilt).map Source.entry) ∧
          report.failures.map (·.1) =
            ((sourcesIn config tree).filter (!isBuilt ·)).map (·.path) := by
  rw [build_eq] at done
  rcases buildWith_cases config tree with ⟨error, stops⟩ | ⟨assets, ready, created, goes⟩
  · rw [stops] at done
    cases done
  rw [goes] at done
  obtain ⟨rfl, written⟩ := write_of_finish done
  refine ⟨⟨_, written⟩, ?_⟩
  obtain ⟨sources, told⟩ := outcomes_buildPages tools config assets (sourcesIn config tree) ready
  generalize ((buildPages (m := StateM Tree) Tree.disk tools config assets
    (sourcesIn config tree)).run ready).1 = outcomes at sources told
  obtain ⟨outcome, same, isThere⟩ := exists_outcome (sources ▸ nodup_sourcesIn config tree)
  rw [sources] at same
  have entries : (builtPages outcomes).map (·.entry) =
      ((sourcesIn config tree).filter fun source => (outcome source).isOk).map Source.entry := by
    rw [same]
    exact builtPages_map _ fun source built done => told _ (isThere source built done) built rfl
  have failures : (failedPages outcomes).map (·.1) =
      ((sourcesIn config tree).filter fun source => !(outcome source).isOk).map (·.path) := by
    rw [same]
    exact failedPages_map outcome _
  refine ⟨fun source => (outcome source).isOk, ?_, failures⟩
  rw [← entries]
  exact List.mergeSort_perm _ _

theorem nodup_routes_iff {entries : List Entry} {sources : List Source}
    (perm : entries.Perm (sources.map Source.entry))
    (placed : ∀ source ∈ sources, (∀ name ∈ source.place, IsSegment name) ∧
      source.route = Source.routeOf (Source.stem source.place)) :
    (entries.map (·.route)).Nodup ↔ sources.Pairwise fun first second =>
      Source.address first.place ≠ Source.address second.place := by
  have routes := (perm.map Entry.route).nodup_iff
  rw [List.map_map] at routes
  refine routes.trans (List.pairwise_map.trans ?_)
  refine List.Pairwise.iff_of_mem fun {first second} isFirst isSecond => ?_
  obtain ⟨ordinary, route⟩ := placed first isFirst
  obtain ⟨ordinary', route'⟩ := placed second isSecond
  have inj := Source.routeOf_stem_inj ordinary ordinary'
  rw [← route, ← route'] at inj
  exact not_congr inj

/-- **The routes of a manifest differ if and only if the addresses of its pages do.** -/
theorem routes_distinct_iff (tools : Tools) (config : Config) {tree left : Tree} {report : Report}
    (names : ∀ entry ∈ tree.nodes, ∀ name ∈ entry.1, IsName name)
    (done : after (build Tree.disk tools config) tree = (.ok report, left)) :
    (∃ before : Tree, before.write (Path.join config.outputDir "pages.json")
        (manifestText report.entries) = some left) ∧
      ∃ isBuilt : Source → Bool,
        let built := (sourcesIn config tree).filter isBuilt
        report.entries.Perm (built.map Source.entry) ∧
          report.failures.map (·.1) =
            ((sourcesIn config tree).filter (!isBuilt ·)).map (·.path) ∧
          (∀ source ∈ built,
            source.route = "/" ++ "/".intercalate (Source.address source.place)) ∧
          ((report.entries.map (·.route)).Nodup ↔ built.Pairwise fun first second =>
            Source.address first.place ≠ Source.address second.place) := by
  obtain ⟨written, isBuilt, perm, failures⟩ := exists_isBuilt done
  refine ⟨written, isBuilt, perm, failures, fun source mem => ?_, nodup_routes_iff perm ?_⟩
  · obtain ⟨ordinary, route⟩ := exists_place names (List.mem_of_mem_filter mem)
    rw [route, Source.routeOf_stem ordinary]
  · exact fun source mem => exists_place names (List.mem_of_mem_filter mem)

/-! ### One route twice -/

/-- A directory with an index, beside it two pages of its name, one of which is no text. -/
def crowded : Tree :=
  { nodes := [(["pages"], .directory), (["pages", "blog"], .directory),
      (["pages", "blog", "index.html"], .text "<p>"), (["pages", "blog.htm"], .binary [255]),
      (["pages", "blog.html"], .text "")] }

/-- What a build of it comes to. -/
def crowdedReport : Report :=
  { entries :=
      [⟨"/blog", "BlogIndex", "src/pages/BlogIndex.jsx", "blog/index.html"⟩,
        ⟨"/blog", "Blog2", "src/pages/Blog2.jsx", "blog.html"⟩]
    images := 0
    classes := 0
    failures := [("pages/blog.htm", .unreadable "pages/blog.htm" .notText)] }

theorem sourcesIn_crowded :
    sourcesIn {} crowded =
      Source.ofPlaces "pages" [] [["blog", "index.html"], ["blog.htm"], ["blog.html"]] :=
  sourcesIn_of_sorted (by decide +kernel) (by decide +kernel)

theorem build_crowded :
    ∃ left, after (build Tree.disk lenientTools {}) crowded = (.ok crowdedReport, left) := by
  let sources := Source.ofPlaces "pages" [] [["blog", "index.html"], ["blog.htm"], ["blog.html"]]
  let outcomes : List (Source × Except BuildError Built) := sources.zip
    [.ok ⟨crowdedReport.entries[0], [], 0⟩, .error (.unreadable "pages/blog.htm" .notText),
      .ok ⟨crowdedReport.entries[1], [], 0⟩]
  have told : Report.of outcomes = crowdedReport :=
    Report.of_eq (by decide +kernel) (by decide +kernel) (by decide +kernel)
  have goes : (leftBy? lenientTools {} {} sources outcomes crowdedReport crowded).isSome = true := by
    decide +kernel
  obtain ⟨left, goes⟩ := Option.isSome_iff_exists.1 goes
  exact ⟨left, after_build_of_leftBy? rfl (by decide) (by decide +kernel) sourcesIn_crowded told
    goes⟩

theorem routes_distinct_iff_crowded :
    (∀ entry ∈ crowded.nodes, ∀ name ∈ entry.1, IsName name) ∧
      ∃ left, after (build Tree.disk lenientTools {}) crowded = (.ok crowdedReport, left) ∧
        ∃ isBuilt : Source → Bool,
          let built := (sourcesIn {} crowded).filter isBuilt
          crowdedReport.entries.Perm (built.map Source.entry) ∧
            ¬ built.Pairwise fun first second =>
              Source.address first.place ≠ Source.address second.place := by
  have names : ∀ entry ∈ crowded.nodes, ∀ name ∈ entry.1, IsName name := by decide +kernel
  obtain ⟨left, done⟩ := build_crowded
  obtain ⟨_, isBuilt, perm, _, _, distinct⟩ := routes_distinct_iff lenientTools {} names done
  exact ⟨names, left, done, isBuilt, perm, fun apart => absurd (distinct.2 apart) (by decide)⟩

/-- The two pages that are text are built, and share a route. -/
theorem exists_route_twice :
    ∃ report left, after (build Tree.disk lenientTools {}) crowded = (.ok report, left) ∧
      ¬ (report.entries.map (·.route)).Nodup := by
  obtain ⟨left, done⟩ := build_crowded
  exact ⟨crowdedReport, left, done, by decide⟩

end JsxPages.Project
