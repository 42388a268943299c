import JsxPages.Project.Path
import JsxPages.Project.Tree
import JsxPages.Proofs.Tables.Lookup
import JsxPages.Proofs.Text.Words
import Mathlib.Data.List.Basic
/-!
# Files at their places

A path leads either nowhere or to the place that its names spell (`placeOf_of_locate`), and where it
leads hangs on the directories alone, the working directory among them (`locate_mono`). A write puts
one text at one place that is not a directory, so it keeps all directories and all other places
(`sameDirs_set`, `find?_set`). Texts that are put at places of their own can therefore be put there
in any order (`find?_setAll_perm`).
-/

namespace JsxPages.Project

/-! ### Names on a path -/

/-- The place that some names spell from another one on. -/
def resolve (place : Place) : List String → Place
  | [] => place
  | name :: rest =>
    if name = "" ∨ name = "." then resolve place rest
    else if name = ".." then resolve place.dropLast rest
    else resolve (place ++ [name]) rest

/-- The place that a path spells, whether or not it leads there. -/
def placeOf (workingDir : Place) (path : String) : Place :=
  resolve (startOf workingDir path) (segments path)

/-- Whether a text is the name of a file or a directory. -/
def IsName (name : String) : Prop :=
  name ≠ "" ∧ name ≠ "." ∧ name ≠ ".." ∧ '/' ∉ name.toList

instance (name : String) : Decidable (IsName name) :=
  inferInstanceAs (Decidable (_ ∧ _))

theorem resolve_append (place : Place) (names rest : List String) :
    resolve place (names ++ rest) = resolve (resolve place names) rest := by
  induction names generalizing place with
  | nil => rfl
  | cons name names ih =>
    rw [List.cons_append, resolve, resolve]
    split
    · exact ih place
    split
    · exact ih _
    · exact ih _

theorem resolve_names {names : List String} (ordinary : ∀ name ∈ names, IsName name)
    (place : Place) : resolve place names = place ++ names := by
  induction names generalizing place with
  | nil => exact (List.append_nil place).symm
  | cons name names ih =>
    obtain ⟨⟨some, notPoint, notUp, _⟩, others⟩ := List.forall_mem_cons.1 ordinary
    rw [resolve, if_neg (by simp [some, notPoint]), if_neg notUp, ih others, List.append_assoc]
    rfl

theorem segments_of_notMem {name : String} (free : '/' ∉ name.toList) : segments name = [name] := by
  have none : ∀ c ∈ name.toList, (c == '/') = false := by
    intro c mem
    rw [beq_eq_false_iff_ne]
    rintro rfl
    exact free mem
  rw [segments, Text.splitWhere_of_none none, List.map_singleton, String.ofList_toList]

theorem segments_slash (before after : String) :
    segments (before ++ "/" ++ after) = segments before ++ segments after := by
  have split := Text.splitWhere_append (p := (· == '/')) (c := '/') (by decide) before.toList
    after.toList
  rw [segments, String.toList_append, String.toList_append, List.append_assoc]
  change List.map _ (Text.splitWhere _ (before.toList ++ '/' :: after.toList)) = _
  rw [split, List.map_append]
  rfl

/-- Names with slashes between them are read as these names. -/
theorem segments_intercalate {names : List String} (some : names ≠ [])
    (free : ∀ name ∈ names, '/' ∉ name.toList) : segments ("/".intercalate names) = names := by
  induction names with
  | nil => exact absurd rfl some
  | cons name names ih =>
    obtain ⟨first, others⟩ := List.forall_mem_cons.1 free
    cases names with
    | nil => rw [String.intercalate_singleton, segments_of_notMem first]
    | cons next names =>
      rw [String.intercalate_cons_cons, segments_slash, segments_of_notMem first,
        ih (by simp) others]
      rfl

theorem intercalate_ne_empty {names : List String} (some : names ≠ [])
    (ordinary : ∀ name ∈ names, IsName name) : "/".intercalate names ≠ "" := by
  intro empty
  have spelled := segments_intercalate some fun name mem => (ordinary name mem).2.2.2
  rw [empty] at spelled
  have named := ordinary "" (spelled ▸ List.mem_cons_self)
  exact named.1 rfl

theorem head?_intercalate {names : List String} (some : names ≠ [])
    (ordinary : ∀ name ∈ names, IsName name) :
    ("/".intercalate names).toList.head? ≠ .some '/' := by
  intro slash
  have spelled := segments_intercalate some fun name mem => (ordinary name mem).2.2.2
  obtain ⟨rest, begins⟩ := List.head?_eq_some_iff.1 slash
  have first : segments ("/".intercalate names) =
      "" :: (Text.splitWhere (· == '/') rest).map String.ofList := by
    rw [segments, begins]
    rfl
  rw [first] at spelled
  have named := ordinary "" (spelled ▸ List.mem_cons_self)
  exact named.1 rfl

theorem join_of_relative {base path : String} (some : base ≠ "")
    (relative : path.toList.head? ≠ .some '/') :
    Path.join base path =
      if base.toList.getLast? = .some '/' then base ++ path else base ++ "/" ++ path := by
  have named : ¬ (base.isEmpty ∨ path.toList.head? = .some '/') := by
    rintro (empty | absolute)
    · exact some (by simpa using empty)
    · exact relative absolute
  rw [Path.join, if_neg named]

theorem join_ne_empty {path : String} (some : path ≠ "") (base : String) :
    Path.join base path ≠ "" := by
  intro empty
  have none := congrArg String.toList empty
  rw [Path.join] at none
  split at none
  · exact some (String.toList_eq_nil_iff.1 none)
  split at none
  all_goals
    rw [String.toList_append] at none
    exact some (String.toList_eq_nil_iff.1 (List.append_eq_nil_iff.1 none).2)

/-- A path below another leads from where the other does. -/
theorem startOf_join (workingDir : Place) {base path : String} (some : base ≠ "")
    (relative : path.toList.head? ≠ .some '/') :
    startOf workingDir (Path.join base path) = startOf workingDir base := by
  have full : base.toList ≠ [] := fun none => some (String.toList_eq_nil_iff.1 none)
  have begins : (Path.join base path).toList.head? = base.toList.head? := by
    rw [join_of_relative some relative]
    split
    · rw [String.toList_append, List.head?_append_of_ne_nil _ full]
    · rw [String.append_assoc, String.toList_append, List.head?_append_of_ne_nil _ full]
  rw [startOf, begins, startOf]

/-- A path below another has its names behind those of the other, an empty one at the end aside. -/
theorem segments_join {base path : String} (some : base ≠ "")
    (relative : path.toList.head? ≠ .some '/') :
    ∃ front, (segments base = front ∨ segments base = front ++ [""]) ∧
      segments (Path.join base path) = front ++ segments path := by
  rw [join_of_relative some relative]
  split
  · rename_i slash
    obtain ⟨front, ends⟩ := List.getLast?_eq_some_iff.1 slash
    have whole : base = String.ofList front ++ "/" ++ "" := by
      apply String.toList_injective
      simp [ends]
    refine ⟨segments (String.ofList front), .inr ?_, ?_⟩
    · rw [whole, segments_slash]
      rfl
    · rw [whole, String.append_empty, segments_slash]
  · exact ⟨segments base, .inl rfl, segments_slash base path⟩

theorem placeOf_join (workingDir : Place) {base path : String} (some : base ≠ "")
    (relative : path.toList.head? ≠ .some '/') :
    placeOf workingDir (Path.join base path) =
      resolve (placeOf workingDir base) (segments path) := by
  obtain ⟨front, ends, joined⟩ := segments_join some relative
  rw [placeOf, startOf_join workingDir some relative, joined, resolve_append, placeOf]
  rcases ends with same | same
  · rw [same]
  · rw [same, resolve_append]
    rfl

namespace Tree

variable {tree other : Tree} {place : Place}

/-! ### Directories -/

/-- A tree with the working directory of another one and with all its directories. -/
structure HasDirsOf (other tree : Tree) : Prop where
  workingDir : other.workingDir = tree.workingDir
  dirs : ∀ place, tree.hasDir place = true → other.hasDir place = true

/-- A tree with the working directory of another one and with no other directories. -/
structure SameDirs (other tree : Tree) : Prop where
  workingDir : other.workingDir = tree.workingDir
  dirs : ∀ place, other.hasDir place = tree.hasDir place

namespace SameDirs

theorem refl (tree : Tree) : tree.SameDirs tree :=
  ⟨rfl, fun _ => rfl⟩

theorem symm (same : other.SameDirs tree) : tree.SameDirs other :=
  ⟨same.workingDir.symm, fun place => (same.dirs place).symm⟩

theorem trans {another : Tree} (same : another.SameDirs other) (next : other.SameDirs tree) :
    another.SameDirs tree :=
  ⟨same.workingDir.trans next.workingDir,
    fun place => (same.dirs place).trans (next.dirs place)⟩

theorem hasDirsOf (same : other.SameDirs tree) : other.HasDirsOf tree :=
  ⟨same.workingDir, fun place dir => (same.dirs place).trans dir⟩

end SameDirs

/-! ### Where paths lead -/

theorem follow_append (place : Place) (names rest : List String) :
    tree.follow place (names ++ rest) =
      (tree.follow place names).bind fun place => tree.follow place rest := by
  induction names generalizing place with
  | nil => rfl
  | cons name names ih =>
    rw [List.cons_append, follow, follow]
    split
    · split
      · exact ih place
      split
      · exact ih _
      · exact ih _
    · rfl

theorem eq_resolve_of_follow {names : List String} {found : Place}
    (leads : tree.follow place names = .ok found) : found = resolve place names := by
  induction names generalizing place with
  | nil => exact (Except.ok.inj leads).symm
  | cons name names ih =>
    rw [follow] at leads
    split at leads
    · rw [resolve]
      split at leads
      · rename_i skipped
        rw [if_pos skipped]
        exact ih leads
      split at leads
      · rename_i kept up
        rw [if_neg kept, if_pos up]
        exact ih leads
      · rename_i kept notUp
        rw [if_neg kept, if_neg notUp]
        exact ih leads
    · cases leads

theorem placeOf_of_locate {path : String} {found : Place} (leads : tree.locate path = .ok found) :
    found = placeOf tree.workingDir path := by
  rw [locate] at leads
  split at leads
  · cases leads
  · exact eq_resolve_of_follow leads

theorem follow_mono (more : other.HasDirsOf tree) {names : List String} {found : Place}
    (leads : tree.follow place names = .ok found) : other.follow place names = .ok found := by
  induction names generalizing place with
  | nil => exact leads
  | cons name names ih =>
    rw [follow] at leads ⊢
    split at leads
    · rename_i dir
      rw [if_pos (more.dirs place dir)]
      split at leads
      · rename_i skipped
        rw [if_pos skipped]
        exact ih leads
      split at leads
      · rename_i kept up
        rw [if_neg kept, if_pos up]
        exact ih leads
      · rename_i kept notUp
        rw [if_neg kept, if_neg notUp]
        exact ih leads
    · cases leads

/-- A path still leads to its place where there are more directories. -/
theorem locate_mono (more : other.HasDirsOf tree) {path : String} {found : Place}
    (leads : tree.locate path = .ok found) : other.locate path = .ok found := by
  rw [locate] at leads ⊢
  split at leads
  · cases leads
  · rename_i named
    rw [if_neg named, more.workingDir]
    exact follow_mono more leads

theorem locate_eq_ok {path : String} {found : Place} (leads : tree.locate path = .ok found) :
    path ≠ "" ∧ tree.follow (startOf tree.workingDir path) (segments path) = .ok found := by
  rw [locate] at leads
  split at leads
  · cases leads
  · rename_i named
    exact ⟨fun empty => named (String.isEmpty_iff.2 empty), leads⟩

/-- A path goes on from where it leads to. -/
theorem locate_join {path : String} {names : List String} {found : Place}
    (leads : tree.locate path = .ok place) (some : names ≠ [])
    (ordinary : ∀ name ∈ names, IsName name) (follows : tree.follow place names = .ok found) :
    tree.locate (Path.join path ("/".intercalate names)) = .ok found := by
  obtain ⟨full, leads⟩ := locate_eq_ok leads
  have spelled := segments_intercalate some fun name mem => (ordinary name mem).2.2.2
  have relative := head?_intercalate some ordinary
  obtain ⟨front, ends, joined⟩ := segments_join full relative
  have named := join_ne_empty (intercalate_ne_empty some ordinary) path
  rw [locate, if_neg fun empty => named (String.isEmpty_iff.1 empty),
    startOf_join tree.workingDir full relative, joined, spelled, follow_append]
  rcases ends with same | same
  · rw [← same, leads]
    exact follows
  · rw [same, follow_append] at leads
    cases first : tree.follow (startOf tree.workingDir path) front with
    | error fault =>
      rw [first] at leads
      cases leads
    | ok middle =>
      -- the empty name behind the last slash leads nowhere else
      rw [first] at leads
      change (if _ then _ else _) = _ at leads
      split at leads
      · obtain rfl := Except.ok.inj leads
        exact follows
      · cases leads

theorem mem_filesBelow {path : String} (mem : place ∈ tree.filesBelow path) :
    ∃ base node, tree.locate path = .ok base ∧ (base ++ place, node) ∈ tree.nodes := by
  rw [filesBelow] at mem
  split at mem
  · cases mem
  · rename_i base leads
    obtain ⟨⟨full, node⟩, isNode, isBelow⟩ := List.mem_filterMap.1 mem
    dsimp only at isBelow
    split at isBelow
    · cases isBelow
    · obtain rfl := List.isPrefixOf?_eq_some_iff_append_eq.1 isBelow
      exact ⟨base, node, leads, isNode⟩

/-! ### Setting a place -/

theorem lookup_setNode (place : Place) (node : Node) (nodes : List (Place × Node))
    (another : Place) :
    (setNode place node nodes).lookup another =
      if another = place then some node else nodes.lookup another := by
  induction nodes with
  | nil => exact lookup_cons place another node []
  | cons entry rest ih =>
    obtain ⟨key, value⟩ := entry
    rw [setNode]
    split
    · rename_i same
      obtain rfl : key = place := same
      rw [lookup_cons, lookup_cons]
      split <;> rfl
    · rename_i differ
      rw [lookup_cons, lookup_cons, ih]
      split
      · rename_i found
        rw [if_neg (found ▸ differ)]
      · rfl

theorem find?_set (some : place ≠ []) (node : Node) (another : Place) :
    (tree.set place node).find? another =
      if another = place then .some node else tree.find? another := by
  rw [find?, find?, set, lookup_setNode]
  by_cases root : another = []
  · rw [if_pos root, if_pos root, if_neg]
    exact fun same => some (same ▸ root)
  · rw [if_neg root, if_neg root]

theorem ne_nil_of_not_hasDir (free : tree.hasDir place = false) : place ≠ [] := by
  rintro rfl
  simp [hasDir, find?] at free

theorem hasDir_set (free : tree.hasDir place = false) (text : String) (another : Place) :
    (tree.set place (.text text)).hasDir another = tree.hasDir another := by
  rw [hasDir, find?_set (ne_nil_of_not_hasDir free)]
  split
  · rename_i same
    rw [same, free]
    rfl
  · rfl

/-- A file where no directory is leaves the directories as they are. -/
theorem sameDirs_set (free : tree.hasDir place = false) (text : String) :
    (tree.set place (.text text)).SameDirs tree :=
  ⟨rfl, hasDir_set free text⟩

theorem hasDir_setDirectory (dir : tree.hasDir place = true) (another : Place) :
    (tree.set another .directory).hasDir place = true := by
  rw [hasDir, find?] at dir ⊢
  by_cases root : place = []
  · rw [if_pos root]
    rfl
  · rw [if_neg root] at dir ⊢
    rw [set, lookup_setNode]
    split
    · rfl
    · exact dir

theorem hasDir_setDirectories (dir : tree.hasDir place = true) (places : List Place) :
    (places.foldl (fun tree place => tree.set place .directory) tree).hasDir place = true := by
  induction places generalizing tree with
  | nil => exact dir
  | cons another places ih => exact ih (hasDir_setDirectory dir another)

theorem workingDir_setDirectories (tree : Tree) (places : List Place) :
    (places.foldl (fun tree place => tree.set place .directory) tree).workingDir =
      tree.workingDir := by
  induction places generalizing tree with
  | nil => rfl
  | cons place places ih => exact ih _

/-- Creating directories loses none. -/
theorem hasDirsOf_createDirs {path : String} {ready : Tree}
    (created : tree.createDirs path = some ready) : ready.HasDirsOf tree := by
  unfold createDirs at created
  dsimp only at created
  split at created
  · obtain rfl := Option.some.inj created
    exact ⟨workingDir_setDirectories tree _, fun _ dir => hasDir_setDirectories dir _⟩
  · cases created

/-! ### Writing -/

/-- The place that a path can be written to. -/
def target? (tree : Tree) (path : String) : Option Place :=
  match tree.locate path with
  | .ok place => if tree.hasDir place then none else some place
  | .error _ => none

theorem write_eq (tree : Tree) (path text : String) :
    tree.write path text = (tree.target? path).map fun place => tree.set place (.text text) := by
  rw [write, target?]
  split
  · rename_i fault located
    rw [located]
    rfl
  · rename_i place located
    rw [located]
    dsimp only
    split <;> rfl

theorem target?_eq_some {path : String} (found : tree.target? path = some place) :
    place = placeOf tree.workingDir path ∧ tree.hasDir place = false := by
  rw [target?] at found
  split at found
  · rename_i located
    split at found
    · cases found
    · rename_i free
      obtain rfl := Option.some.inj found
      exact ⟨placeOf_of_locate located, by simpa using free⟩
  · cases found

theorem target?_congr (same : other.SameDirs tree) (path : String) :
    other.target? path = tree.target? path := by
  rw [target?, target?]
  cases located : tree.locate path with
  | ok place =>
    have leads := locate_mono same.hasDirsOf located
    rw [leads]
    dsimp only
    rw [same.dirs place]
  | error fault =>
    cases leads : other.locate path with
    | error _ => rfl
    | ok place =>
      have back := locate_mono same.symm.hasDirsOf leads
      rw [located] at back
      cases back

/-- A tree with texts put at places one after the other. -/
def setAll (tree : Tree) (files : List (Place × String)) : Tree :=
  files.foldl (fun tree file => tree.set file.1 (.text file.2)) tree

theorem setAll_append (tree : Tree) (files more : List (Place × String)) :
    tree.setAll (files ++ more) = (tree.setAll files).setAll more :=
  List.foldl_append

theorem sameDirs_setAll {files : List (Place × String)}
    (free : ∀ file ∈ files, tree.hasDir file.1 = false) : (tree.setAll files).SameDirs tree := by
  induction files generalizing tree with
  | nil => exact SameDirs.refl tree
  | cons file files ih =>
    obtain ⟨first, others⟩ := List.forall_mem_cons.1 free
    have same := sameDirs_set first file.2
    rw [setAll, List.foldl_cons, ← setAll]
    exact (ih fun file mem => (same.dirs file.1).trans (others file mem)).trans same

theorem find?_setAll_of_notMem {files : List (Place × String)}
    (free : ∀ file ∈ files, tree.hasDir file.1 = false) (new : ∀ file ∈ files, file.1 ≠ place) :
    (tree.setAll files).find? place = tree.find? place := by
  induction files generalizing tree with
  | nil => rfl
  | cons file files ih =>
    obtain ⟨first, others⟩ := List.forall_mem_cons.1 free
    obtain ⟨different, rest⟩ := List.forall_mem_cons.1 new
    have dirs := hasDir_set first file.2
    rw [setAll, List.foldl_cons, ← setAll,
      ih (fun file mem => (dirs file.1).trans (others file mem)) rest,
      find?_set (ne_nil_of_not_hasDir first), if_neg different.symm]

theorem find?_setAll_of_mem {files : List (Place × String)} {text : String}
    (free : ∀ file ∈ files, tree.hasDir file.1 = false) (distinct : files.Pairwise (·.1 ≠ ·.1))
    (mem : (place, text) ∈ files) : (tree.setAll files).find? place = some (.text text) := by
  induction files generalizing tree with
  | nil => cases mem
  | cons file files ih =>
    obtain ⟨first, others⟩ := List.forall_mem_cons.1 free
    obtain ⟨new, distinct⟩ := List.pairwise_cons.1 distinct
    have dirs := hasDir_set first file.2
    have still : ∀ file' ∈ files, (tree.set file.1 (.text file.2)).hasDir file'.1 = false :=
      fun file mem => (dirs file.1).trans (others file mem)
    rw [setAll, List.foldl_cons, ← setAll]
    rcases List.mem_cons.1 mem with rfl | later
    · rw [find?_setAll_of_notMem still fun file mem => (new file mem).symm,
        find?_set (ne_nil_of_not_hasDir first), if_pos rfl]
    · exact ih still distinct later

/-- A file is read as before if nothing is put at its place. -/
theorem read_setAll {files : List (Place × String)} {path : String}
    (free : ∀ file ∈ files, tree.hasDir file.1 = false) (leads : tree.locate path = .ok place)
    (apart : ∀ file ∈ files, file.1 ≠ place) : (tree.setAll files).read path = tree.read path := by
  have still := locate_mono (sameDirs_setAll free).hasDirsOf leads
  rw [read, read, leads, still]
  dsimp only
  rw [find?_setAll_of_notMem free apart]

/-- **Texts at places of their own can be put there in any order.** -/
theorem find?_setAll_perm {files more : List (Place × String)} (perm : files.Perm more)
    (free : ∀ file ∈ files, tree.hasDir file.1 = false) (distinct : files.Pairwise (·.1 ≠ ·.1))
    (place : Place) : (tree.setAll files).find? place = (tree.setAll more).find? place := by
  have freeMore : ∀ file ∈ more, tree.hasDir file.1 = false :=
    fun file mem => free file (perm.mem_iff.2 mem)
  have distinctMore := perm.pairwise distinct fun different => different.symm
  by_cases written : ∃ text, (place, text) ∈ files
  · obtain ⟨text, mem⟩ := written
    rw [find?_setAll_of_mem free distinct mem,
      find?_setAll_of_mem freeMore distinctMore (perm.mem_iff.1 mem)]
  · have new : ∀ file ∈ files, file.1 ≠ place := by
      rintro ⟨_, text⟩ mem rfl
      exact written ⟨text, mem⟩
    rw [find?_setAll_of_notMem free new,
      find?_setAll_of_notMem freeMore fun file mem => new file (perm.mem_iff.2 mem)]

end Tree

end JsxPages.Project
