import JsxPages.Proofs.Script.ImportStatements
/-!
# The import statements of a table

The paths of images are written into their import statements as they are, without escapes. A script
reads the statements back as the entries of the table, each identifier bound to the path of its
file, as long as no path has a character that means something else between single quotes. One quote,
backslash or line break in a path is enough for the statements to mean something else or nothing at
all (`readStatements_statements_iff`).
-/

namespace JsxPages.Image

/-- The path that a file is imported from. -/
def modulePath (directory filename : String) : String :=
  "./" ++ directory ++ "/" ++ filename

theorem toList_statement {directory : String} (named : directory.isEmpty = false)
    (entry : String × String) :
    (Imports.statement directory entry).toList =
      Script.importStatement entry.2.toList (modulePath directory entry.1).toList := by
  have start : "import ".toList = Script.importStart := by decide
  have source : " from './".toList = Script.sourceStart ++ "./".toList := by decide
  have quoteEnd : "';\n".toList = ['\''] ++ Script.statementEnd := by decide
  rw [Imports.statement, if_neg (by simp [named])]
  simp only [modulePath, Script.importStatement, String.toList_append, start, source, quoteEnd,
    List.append_assoc, List.singleton_append]

theorem toList_statements {directory : String} (named : directory.isEmpty = false)
    (entries : List (String × String)) :
    (String.join (entries.map (Imports.statement directory))).toList =
      Script.importStatements
        (entries.map fun entry => (entry.2, (modulePath directory entry.1).toList)) := by
  induction entries with
  | nil => rfl
  | cons entry rest ih =>
    rw [List.map_cons, List.map_cons, String.join_cons, String.toList_append, ih,
      toList_statement named, Script.importStatements_cons]

theorem readStatements_statement_iff {imports : Imports} (bindable : imports.Bindable)
    {directory : String} (named : directory.isEmpty = false) :
    Script.readStatements (String.join (imports.entries.map (Imports.statement directory))).toList =
        some (imports.entries.map fun entry =>
          (entry.2, Script.units (modulePath directory entry.1).toList)) ↔
      ∀ entry ∈ imports.entries, ∀ c ∈ (modulePath directory entry.1).toList,
        c ≠ '\'' ∧ c ≠ '\n' ∧ c ≠ '\r' ∧ c ≠ '\\' := by
  have binding : ∀ named ∈ imports.entries.map fun entry =>
      (entry.2, (modulePath directory entry.1).toList), isBinding named.1 = true := by
    intro named mem
    obtain ⟨entry, isEntry, rfl⟩ := List.mem_map.1 mem
    exact bindable _ (List.mem_map.2 ⟨entry, isEntry, rfl⟩)
  have back := Script.readStatements_importStatements_iff binding
  rw [← toList_statements named, List.map_map, List.forall_mem_map] at back
  refine back.trans (forall₂_congr fun entry _ => forall₂_congr fun c _ => ?_)
  simp [Script.isPlain, and_assoc]

/-- An address with the asset map and the image directory that it is resolved with. -/
structure Request where
  assets : AssetMap := {}
  imagesDir : String := "images-flat"
  value : String

/-- The images behind requests that are resolved one after the other. -/
def resolveAll (imports : Imports) (requests : List Request) : Imports :=
  requests.foldl
    (fun imports request => (resolve request.assets request.imagesDir imports request.value).2)
    imports

theorem bindable_resolveAll {imports : Imports} (bindable : imports.Bindable)
    (requests : List Request) : (resolveAll imports requests).Bindable := by
  induction requests generalizing imports with
  | nil => exact bindable
  | cons request rest ih =>
    have next := bindable.resolve request.assets request.imagesDir request.value
    rw [resolveAll, List.foldl_cons]
    exact ih next

/-- **Import statements say what the table says where all paths are plain.** For the images behind
any requests and for every accepted image directory, a script reads the statements as one import per
entry, in the order of the entries, each of the identifier of the entry from the path of its file
below the directory, if and only if no path has a single quote, a backslash or a line break. -/
theorem readStatements_statements_iff (requests : List Request) (options : Options)
    (accepted : options.check = .ok ()) :
    let imports := resolveAll {} requests
    let path := modulePath (Text.trimChar '/' options.imagesDir)
    Script.readStatements (imports.statements options.imagesDir).toList =
        some (imports.entries.map fun entry => (entry.2, Script.units (path entry.1).toList)) ↔
      ∀ entry ∈ imports.entries, ∀ c ∈ (path entry.1).toList,
        c ≠ '\'' ∧ c ≠ '\n' ∧ c ≠ '\r' ∧ c ≠ '\\' := by
  have bindable := bindable_resolveAll Imports.bindable_empty requests
  have named := (Options.check_eq_ok.1 accepted).2.1
  unfold Imports.statements
  generalize Text.trimChar '/' options.imagesDir = directory at named ⊢
  exact readStatements_statement_iff bindable named

/-- A mapped file, one below the image directory, and one whose name alone is a reserved word. -/
def logoAndNew : List Request :=
  [{ assets := { entries := [("/a/logo.png?v=2", "_logo.png")] }, value := "/a/logo.png?v=2" },
    { value := "./images-flat/icons/../new.svg" }, { value := "/new.svg" }]

theorem readStatements_statements_logoAndNew :
    ({} : Options).check = .ok () ∧
      Script.readStatements ((resolveAll {} logoAndNew).statements "images-flat").toList =
        some [("logo", Script.units "./images-flat/_logo.png".toList),
          ("iconsNew", Script.units "./images-flat/icons/../new.svg".toList),
          ("newImg", Script.units "./images-flat/new.svg".toList)] := by
  have accepted : ({} : Options).check = .ok () := by decide
  have plain : ∀ entry ∈ (resolveAll {} logoAndNew).entries,
      (modulePath "images-flat" entry.1).toList.all (Script.isPlain '\'') = true := by
    decide +kernel
  have read := (readStatements_statements_iff logoAndNew {} accepted).2 fun entry mem c inPath => by
    simpa [Script.isPlain, and_assoc] using List.all_eq_true.1 (plain entry mem) c inPath
  exact ⟨accepted, read.trans (by decide +kernel)⟩

/-- The apostrophe of a file name ends the string that names the file. -/
theorem readStatements_apostrophe :
    let imports := resolveAll {} [{ value := "/it's.png" }]
    imports.entries = [("it's.png", "itS")] ∧
      imports.statements "images-flat" = "import itS from './images-flat/it's.png';\n" ∧
      Script.readStatements (imports.statements "images-flat").toList = none := by
  decide +kernel

end JsxPages.Image
