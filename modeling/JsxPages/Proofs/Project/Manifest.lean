import JsxPages.Proofs.Json.Printed
import JsxPages.Proofs.Project.Routes
import JsxPages.Proofs.Project.Written
/-!
# The manifest as it is read

The text of a manifest is JSON, an array with an object for each page. Whoever reads it gets the
pages back, in their order and with all that was told of them (`readManifest?_manifestText`). So the
file that a build leaves holds just what the build reports (`manifest_of_build`).
-/

namespace JsxPages.Project

open Json (Value readFields readValue setField skipSpace stringText)

/-! ### Reading a manifest -/

/-- The text under a name in an object. -/
def textAt? (name : String) : Value → Option String
  | .object fields =>
    match fields.lookup name with
    | some (.string text) => some text
    | _ => none
  | _ => none

def Entry.ofJson? (value : Value) : Option Entry := do
  return {
    route := ← textAt? "route" value
    component := ← textAt? "component" value
    module := ← textAt? "module" value
    source := ← textAt? "source" value }

/-- The pages that a text lists, if it is a manifest. -/
def readManifest? (text : String) : Option (List Entry) :=
  match Value.ofText? text with
  | some (.array items) => items.mapM Entry.ofJson?
  | _ => none

/-! ### One page -/

/-- Fields with texts, as an object holds them. -/
def setTexts (fields : List (String × Value)) (texts : List (String × String)) :
    List (String × Value) :=
  texts.foldl (fun fields field => setField field.1 (.string field.2) fields) fields

/-- An entry as a value. -/
def Entry.json (entry : Entry) : Value :=
  .object (setTexts [] entry.fields)

theorem lookup_setField (name other : String) (value : Value) (fields : List (String × Value)) :
    (setField name value fields).lookup other =
      if other = name then some value else fields.lookup other := by
  induction fields with
  | nil => exact lookup_cons name other value []
  | cons field rest ih =>
    obtain ⟨key, held⟩ := field
    rw [setField]
    split
    · exact lookup_cons name other value _
    split
    · rename_i same
      rw [lookup_cons, lookup_cons, same]
      split <;> rfl
    · rename_i differ
      rw [lookup_cons, lookup_cons, ih]
      split
      · rename_i found
        rw [if_neg (found ▸ Ne.symm differ)]
      · rfl

theorem Entry.ofJson?_json (entry : Entry) : Entry.ofJson? entry.json = some entry := by
  simp [ofJson?, json, setTexts, fields, textAt?, lookup_setField]

theorem toList_fieldText_append (name value : String) (rest : List Char) :
    (Entry.fieldText name value).toList ++ rest =
      ' ' :: ' ' :: ' ' :: ' ' :: ((stringText name).toList ++
        ':' :: ' ' :: ((stringText value).toList ++ rest)) := by
  simp [Entry.fieldText]

/-- The fields of a page are read one after the other. -/
theorem readFields_fieldTexts {texts : List (String × String)} (some : texts ≠ [])
    (depth : Nat) (fields : List (String × Value)) (rest : List Char) (fuel : Nat)
    (enough : texts.length < fuel) :
    readFields fuel depth fields
        ((",\n".intercalate (texts.map fun field => Entry.fieldText field.1 field.2)).toList ++
          '\n' :: ' ' :: ' ' :: '\x7d' :: rest) =
      .some (.object (setTexts fields texts), rest) := by
  have indented (text : List Char) :
      skipSpace (' ' :: ' ' :: ' ' :: ' ' :: text) = skipSpace text := rfl
  induction texts generalizing fields fuel with
  | nil => exact absurd rfl some
  | cons field texts ih =>
    rw [List.length_cons] at enough
    obtain ⟨fuel, rfl⟩ : ∃ less, fuel = less + 2 := Nat.exists_eq_add_of_le' (by omega)
    have read (rest : List Char) :
        readValue (fuel + 1) depth (' ' :: ((stringText field.2).toList ++ rest)) =
          .some (.string field.2, rest) := by
      rw [Json.readValue_congr (Json.skipSpace_space _), Json.readValue_stringText]
    cases texts with
    | nil =>
      rw [List.map_singleton, String.intercalate_singleton, toList_fieldText_append,
        Json.readFields_congr (indented _), Json.readFields_of_last field.1 fields (read _) rfl]
      rfl
    | cons next texts =>
      have later := ih (List.cons_ne_nil next texts)
        (setField field.1 (.string field.2) fields) (fuel + 1) (by omega)
      rw [List.map_cons] at later
      rw [List.map_cons, List.map_cons, Json.toList_intercalate_cons_cons,
        toList_fieldText_append, Json.readFields_congr (indented _),
        Json.readFields_of_next field.1 fields (read _) rfl,
        Json.readFields_congr (Json.skipSpace_lineEnd _), later]
      rfl

/-- A page is read back, whatever follows it. -/
theorem readValue_text (depth : Nat) (entry : Entry) (fuel : Nat) (rest : List Char)
    (enough : 6 ≤ fuel) :
    readValue fuel (depth + 1) (entry.text.toList ++ rest) = some (entry.json, rest) := by
  obtain ⟨fuel, rfl⟩ : ∃ less, fuel = less + 1 := Nat.exists_eq_add_one.2 (by omega)
  have some : entry.fields ≠ [] := List.cons_ne_nil _ _
  have few : entry.fields.length < fuel := by
    have four : entry.fields.length = 4 := rfl
    omega
  have read := readFields_fieldTexts some depth [] rest fuel few
  have written : entry.text.toList ++ rest = ' ' :: ' ' :: '\x7b' :: '\n' ::
      ((",\n".intercalate (entry.fields.map fun field =>
        Entry.fieldText field.1 field.2)).toList ++ '\n' :: ' ' :: ' ' :: '\x7d' :: rest) := by
    simp [Entry.text]
  have indented (text : List Char) : skipSpace (' ' :: ' ' :: text) = skipSpace text := rfl
  rw [← Json.readFields_congr (Json.skipSpace_lineEnd _)] at read
  rw [written, Json.readValue_congr (indented _), Json.readValue_object read, Entry.json]

/-! ### All pages -/

theorem length_le_length_intercalate (texts : List String) :
    texts.length ≤ (",\n".intercalate texts).toList.length + 1 := by
  induction texts with
  | nil => exact Nat.zero_le _
  | cons text texts ih =>
    cases texts with
    | nil => simp
    | cons next texts =>
      have whole := congrArg List.length (Json.toList_intercalate_cons_cons text next texts [])
      simp only [List.append_nil, List.length_append, List.length_cons] at whole ih ⊢
      omega

theorem ofText?_manifestText (entries : List Entry) :
    Value.ofText? (manifestText entries) = some (.array (entries.map Entry.json)) := by
  by_cases empty : entries = []
  · rw [empty]
    rfl
  have written : (manifestText entries).toList =
      '[' :: '\n' :: ((",\n".intercalate (entries.map Entry.text)).toList ++ ['\n', ']']) := by
    simp [manifestText, empty]
  -- every page takes a character at least, and the reader has more fuel than characters
  have enough : 6 + entries.length ≤ 2 * (manifestText entries).toList.length + 1 := by
    have lengths := length_le_length_intercalate (entries.map Entry.text)
    rw [List.length_map] at lengths
    rw [written]
    simp only [List.length_cons, List.length_append, List.length_nil]
    omega
  have read := Json.readItems_intercalate (readValue_text 125) empty [] _ enough
  rw [← Json.readItems_congr (Json.skipSpace_lineEnd _)] at read
  have whole := Json.readValue_array read
  rw [← written] at whole
  rw [Value.ofText?, Json.maxDepth, whole]
  rfl

/-- **A manifest is read back**: all its pages, in their order. -/
theorem readManifest?_manifestText (entries : List Entry) :
    readManifest? (manifestText entries) = some entries := by
  have each : ∀ entries : List Entry,
      (entries.map Entry.json).mapM Entry.ofJson? = some entries := by
    intro entries
    induction entries with
    | nil => rfl
    | cons entry entries ih =>
      rw [List.map_cons, List.mapM_cons, Entry.ofJson?_json, ih]
      rfl
  rw [readManifest?, ofText?_manifestText]
  exact each entries

/-! ### The file that a build leaves -/

/-- What is written can be read. -/
theorem Tree.read_of_write {path text : String} {tree left : Tree}
    (written : tree.write path text = some left) : left.read path = .ok text := by
  have sameDirs := sameDirs_of_write written
  rw [write] at written
  split at written
  · cases written
  rename_i place leads
  split at written
  · cases written
  rename_i free
  obtain rfl := Option.some.inj written
  have some := ne_nil_of_not_hasDir (by simpa using free)
  rw [read, locate_mono sameDirs.hasDirsOf leads]
  dsimp only
  rw [find?_set some, if_pos rfl]

/-- **The manifest that a build leaves holds what the build reports.** -/
theorem manifest_of_build {tools : Tools} {config : Config} {tree left : Tree} {report : Report}
    (done : after (build Tree.disk tools config) tree = (.ok report, left)) :
    ∃ text, left.read (Path.join config.outputDir "pages.json") = .ok text ∧
      readManifest? text = some report.entries := by
  obtain ⟨⟨before, written⟩, _⟩ := exists_isBuilt done
  exact ⟨_, Tree.read_of_write written, readManifest?_manifestText report.entries⟩

end JsxPages.Project
