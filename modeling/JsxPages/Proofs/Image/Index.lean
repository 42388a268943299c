import JsxPages.Proofs.Image.Identifier
import JsxPages.Proofs.Tables.Entries
import Mathlib.Data.Finset.Basic
import Mathlib.Data.List.Induction
import Mathlib.Data.Nat.Find
/-!
# A table of images with an index

Whoever registers many images will not search the list of entries for each of them. So a table may
keep two things beside its entries: the place of every file, and the set of all identifiers. A file
is then looked up by its place, and a name is tried in one form after the other until one is not in
the set. Nothing keeps the three parts together but the way in which they are made: they stay in
step with the plain table that is made of the same files (`inStep_ofFiles`), so the index gives the
same answers.

The plain table is a map from the files that were registered to identifiers of their own, and what a
file was once given it keeps (`ofFiles_faithful`).
-/

namespace JsxPages.Image

/-! ### Names against a set -/

theorem exists_form_notMem (base : String) (identifiers : Finset String) :
    ∃ count, Name.form base count ∉ identifiers := by
  obtain ⟨count, _, same, free, _⟩ := Name.isFirstFree_fresh base identifiers.toList
  rw [same, Finset.mem_toList] at free
  exact ⟨count, free⟩

/-- The first form of a name that is not in a set. -/
def firstForm (base : String) (identifiers : Finset String) : String :=
  Name.form base (Nat.find (exists_form_notMem base identifiers))

theorem firstForm_toFinset (base : String) (taken : List String) :
    firstForm base taken.toFinset = Name.fresh base taken := by
  obtain ⟨count, _, same, free, earlier⟩ := Name.isFirstFree_fresh base taken
  have found : Nat.find (exists_form_notMem base taken.toFinset) = count := by
    rw [Nat.find_eq_iff]
    constructor
    · rwa [List.mem_toFinset, ← same]
    · intro before less
      rw [not_not, List.mem_toFinset]
      exact earlier before less
  rw [firstForm, found, same]

/-! ### The index -/

/-- Entries with the places of their files and the set of their identifiers. -/
structure Indexed where
  entries : List (String × String) := []
  places : List (String × Nat) := []
  identifiers : Finset String := ∅

namespace Indexed

def find? (table : Indexed) (filename : String) : Option String :=
  (table.places.lookup filename).bind fun place => table.entries[place]?.map (·.2)

def register (table : Indexed) (filename : String) : String × Indexed :=
  match table.find? filename with
  | some identifier => (identifier, table)
  | none =>
    let identifier := firstForm (identifier filename) table.identifiers
    (identifier,
      { entries := table.entries ++ [(filename, identifier)]
        places := (filename, table.entries.length) :: table.places
        identifiers := insert identifier table.identifiers })

theorem register_eq_self_iff (table : Indexed) (filename identifier : String) :
    table.register filename = (identifier, table) ↔ table.find? filename = some identifier := by
  unfold register
  split
  · rename_i known found
    rw [found, Prod.mk.injEq, Option.some.injEq, and_iff_left rfl]
  · rename_i none
    rw [none]
    refine iff_of_false (fun same => ?_) (by simp)
    have longer := congrArg (fun result => result.2.entries.length) same
    simp at longer

/-- The indexed table behind the registration of some files, one after the other. -/
def ofFiles (files : List String) : Indexed :=
  files.foldl (fun table filename => (table.register filename).2) {}

/-- The parts of an indexed table say what a plain table says: the same entries, each file at its
place and no other, and the identifiers of the entries and no others. -/
structure InStep (table : Indexed) (imports : Imports) : Prop where
  entries : table.entries = imports.entries
  places : ∀ filename place, table.places.lookup filename = some place ↔
    (imports.entries.map (·.1))[place]? = some filename
  identifiers : table.identifiers = imports.identifiers.toFinset

theorem inStep_empty : InStep {} {} where
  entries := rfl
  places := by simp
  identifiers := rfl

theorem InStep.find?_eq {table : Indexed} {imports : Imports} (inStep : InStep table imports)
    (distinct : imports.Distinct) (filename : String) :
    table.find? filename = imports.find? filename := by
  unfold Indexed.find?
  cases known : table.places.lookup filename with
  | none =>
    have unknown : filename ∉ imports.entries.map (·.1) := by
      intro mem
      obtain ⟨place, here⟩ := List.getElem?_of_mem mem
      rw [(inStep.places filename place).2 here] at known
      cases known
    rw [Option.bind_none, Imports.find?, lookup_eq_none_iff.2 unknown]
  | some place =>
    have here := (inStep.places filename place).1 known
    rw [List.getElem?_map, Option.map_eq_some_iff] at here
    obtain ⟨⟨_, identifier⟩, entry, rfl⟩ := here
    rw [Option.bind_some, inStep.entries, entry, Option.map_some]
    exact (lookup_of_mem distinct.files (List.mem_of_getElem? entry)).symm

/-- A new file comes at the end, and all others stay where they are. -/
theorem getElem?_concat_eq_some_iff {files : List String} {filename : String}
    (unknown : filename ∉ files) (other : String) (place : Nat) :
    (files ++ [filename])[place]? = some other ↔
      if other = filename then files.length = place else files[place]? = some other := by
  rw [List.getElem?_append]
  by_cases new : other = filename
  · subst new
    rw [if_pos rfl]
    split
    · refine iff_of_false (fun here => unknown (List.mem_of_getElem? here)) (by omega)
    · rw [List.getElem?_singleton]
      split
      · exact iff_of_true rfl (by omega)
      · exact iff_of_false nofun (by omega)
  · rw [if_neg new]
    split
    · rfl
    · rename_i beyond
      rw [List.getElem?_singleton, List.getElem?_eq_none (by omega)]
      split
      · simpa using Ne.symm new
      · rfl

theorem InStep.register {table : Indexed} {imports : Imports} (inStep : InStep table imports)
    (distinct : imports.Distinct) (filename : String) :
    (table.register filename).1 = (imports.register filename).1 ∧
      InStep (table.register filename).2 (imports.register filename).2 := by
  have same := inStep.find?_eq distinct filename
  cases found : imports.find? filename with
  | some identifier =>
    simp only [Indexed.register, Imports.register, same, found]
    exact ⟨trivial, inStep⟩
  | none =>
    have unknown : filename ∉ imports.entries.map (·.1) := lookup_eq_none_iff.1 found
    have name : firstForm (identifier filename) table.identifiers =
        Name.fresh (identifier filename) imports.identifiers := by
      rw [inStep.identifiers, firstForm_toFinset]
    simp only [Indexed.register, Imports.register, same, found, name]
    refine ⟨trivial, ?_, fun other place => ?_, ?_⟩
    · rw [inStep.entries]
    · rw [List.map_append, List.map_singleton, getElem?_concat_eq_some_iff unknown,
        List.length_map, ← inStep.places, inStep.entries]
      by_cases new : other = filename
      · rw [new, if_pos rfl, lookup_cons_self, Option.some.injEq]
      · rw [if_neg new, lookup_cons_of_ne new]
    · rw [inStep.identifiers]
      ext
      simp [Imports.identifiers, or_comm]

end Indexed

/-! ### Tables of files -/

namespace Imports

theorem ofFiles_concat (files : List String) (filename : String) :
    ofFiles (files ++ [filename]) = ((ofFiles files).register filename).2 := by
  rw [ofFiles, List.foldl_append]
  rfl

theorem distinct_ofFiles (files : List String) : (ofFiles files).Distinct := by
  induction files using List.reverseRecOn with
  | nil => exact distinct_empty
  | append_singleton files filename ih =>
    rw [ofFiles_concat]
    exact ih.register filename

/-- The files of a table are those that were registered, in the order in which they came first. -/
theorem files_ofFiles (files : List String) :
    (ofFiles files).entries.map (·.1) = files.eraseDups := by
  induction files using List.reverseRecOn with
  | nil => rfl
  | append_singleton files filename ih =>
    rw [ofFiles_concat, List.eraseDups_append, ← ih]
    have known : filename ∈ files ↔ filename ∈ (ofFiles files).entries.map (·.1) := by
      rw [ih, List.mem_eraseDups]
    rcases (ofFiles files).register_cases filename with
      ⟨identifier, found, same⟩ | ⟨none, identifier, _, added⟩
    · have isKnown : filename ∈ files := known.2 (List.mem_map_of_mem (mem_of_lookup found))
      rw [same]
      simp [List.removeAll, isKnown]
    · have isNew : filename ∉ files := by
        rw [known]
        exact lookup_eq_none_iff.1 none
      rw [added]
      simp [List.removeAll, isNew, List.eraseDups_cons]

theorem isSome_find?_ofFiles (files : List String) (filename : String) :
    ((ofFiles files).find? filename).isSome ↔ filename ∈ files := by
  rw [← List.mem_eraseDups, ← files_ofFiles]
  exact isSome_lookup_iff

/-- Only a call for a file that is known leaves a table as it is. -/
theorem register_eq_self_iff (imports : Imports) (filename identifier : String) :
    imports.register filename = (identifier, imports) ↔
      imports.find? filename = some identifier := by
  rcases imports.register_cases filename with ⟨known, found, same⟩ | ⟨none, new, _, added⟩
  · rw [same, found, Prod.mk.injEq, Option.some.injEq, and_iff_left rfl]
  · rw [added, none]
    refine iff_of_false (fun same => ?_) (by simp)
    have longer := congrArg (fun result => result.2.entries.length) same
    simp at longer

theorem prefix_ofFiles_append (files later : List String) :
    (ofFiles files).entries <+: (ofFiles (files ++ later)).entries := by
  induction later using List.reverseRecOn with
  | nil => rw [List.append_nil]
  | append_singleton later filename ih =>
    rw [← List.append_assoc, ofFiles_concat]
    exact ih.trans (prefix_register _ filename)

/-- What a call returned is found after all later calls. -/
theorem find?_ofFiles_append_cons (files : List String) (filename : String)
    (later : List String) :
    (ofFiles (files ++ filename :: later)).find? filename =
      some ((ofFiles files).register filename).1 := by
  have entry := (ofFiles files).mem_register filename
  rw [← ofFiles_concat] at entry
  rw [List.append_cons]
  exact lookup_of_mem (distinct_ofFiles _).files ((prefix_ofFiles_append _ later).subset entry)

end Imports

theorem inStep_ofFiles (files : List String) :
    (Indexed.ofFiles files).InStep (Imports.ofFiles files) := by
  induction files using List.reverseRecOn with
  | nil => exact Indexed.inStep_empty
  | append_singleton files filename ih =>
    rw [Imports.ofFiles_concat, Indexed.ofFiles, List.foldl_append]
    exact (ih.register (Imports.distinct_ofFiles files) filename).2

/-- **Every file has an identifier of its own and keeps it.** However many files are registered, in
whatever order, and whatever identifiers their names suggest: each has one entry, where it came
first, and is found with the identifier of that entry and with no other. Only a call for a known
file leaves the table as it is, and what a call returned is found ever after. A table with an index
answers the same. -/
theorem ofFiles_faithful (files : List String) :
    let imports : Imports := .ofFiles files
    let indexed : Indexed := .ofFiles files
    imports.entries.map (·.1) = files.eraseDups ∧
    (∀ filename, (imports.find? filename).isSome ↔ filename ∈ files) ∧
    (∀ filename identifier, imports.find? filename = some identifier ↔
      (filename, identifier) ∈ imports.entries) ∧
    (∀ filename identifier, imports.register filename = (identifier, imports) ↔
      imports.find? filename = some identifier) ∧
    Set.InjOn imports.find? {filename | filename ∈ files} ∧
    (∀ filename later, (Imports.ofFiles (files ++ filename :: later)).find? filename =
      some (imports.register filename).1) ∧
    indexed.InStep imports ∧
    ∀ filename, indexed.find? filename = imports.find? filename ∧
      (indexed.register filename).1 = (imports.register filename).1 ∧
      ∀ identifier, indexed.register filename = (identifier, indexed) ↔
        indexed.find? filename = some identifier := by
  intro imports indexed
  have distinct := Imports.distinct_ofFiles files
  have inStep := inStep_ofFiles files
  have registered := Imports.isSome_find?_ofFiles files
  have injective : Set.InjOn imports.find? {filename | filename ∈ files} := by
    intro filename known other _ same
    obtain ⟨identifier, found⟩ := Option.isSome_iff_exists.1 ((registered filename).2 known)
    have another : imports.find? other = some identifier := same ▸ found
    exact (distinct.find?_eq_some_iff (mem_of_lookup another) filename).1 found
  refine ⟨Imports.files_ofFiles files, registered, fun filename identifier => ?_,
    imports.register_eq_self_iff, injective, Imports.find?_ofFiles_append_cons files, inStep,
    fun filename => ⟨inStep.find?_eq distinct filename, ?_, indexed.register_eq_self_iff filename⟩⟩
  · exact ⟨mem_of_lookup, lookup_of_mem distinct.files⟩
  · exact (inStep.register distinct filename).1

example : (Imports.ofFiles ["logo2.png", "logo.png", "_logo.svg", "logo.png"]).entries =
    [("logo2.png", "logo2"), ("logo.png", "logo"), ("_logo.svg", "logo3")] := by
  decide

example : (Imports.ofFiles ["_logo.svg", "logo.png", "logo2.png", "logo.png"]).entries =
    [("_logo.svg", "logo"), ("logo.png", "logo2"), ("logo2.png", "logo22")] := by
  decide

end JsxPages.Image
