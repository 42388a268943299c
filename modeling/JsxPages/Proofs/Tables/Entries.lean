import JsxPages.Image.Reference
import JsxPages.Proofs.Name.Numbered
import JsxPages.Proofs.Tables.Lookup
import JsxPages.Tables
/-!
# The entries of the tables

Both tables are lists that only grow at their end. No two files have one identifier, and the
declarations of a class are found under its name because its number is its place in the list,
whatever stands in front of the number. So what was found once is found for ever (`Tables.Grown`).
-/

namespace JsxPages

/-! ### Images -/

namespace Image.Imports

/-- Every file has one identifier, and every identifier one file. -/
structure Distinct (imports : Imports) : Prop where
  files : (imports.entries.map (·.1)).Nodup
  identifiers : imports.identifiers.Nodup

/-- A file is known already or gets an identifier that no other has. -/
theorem register_cases (imports : Imports) (filename : String) :
    (∃ identifier, imports.find? filename = some identifier ∧
      imports.register filename = (identifier, imports)) ∨
    (imports.find? filename = none ∧ ∃ identifier, identifier ∉ imports.identifiers ∧
      imports.register filename =
        (identifier, { entries := imports.entries ++ [(filename, identifier)] })) := by
  cases found : imports.find? filename with
  | some identifier => exact .inl ⟨identifier, rfl, by simp [register, found]⟩
  | none =>
    have new := Name.fresh_notMem (Image.identifier filename) imports.identifiers
    exact .inr ⟨rfl, _, new, by simp only [register, found]⟩

theorem prefix_register (imports : Imports) (filename : String) :
    imports.entries <+: (imports.register filename).2.entries := by
  rcases imports.register_cases filename with ⟨identifier, _, same⟩ | ⟨_, identifier, _, added⟩
  · simp [same]
  · simp [added]

theorem mem_register (imports : Imports) (filename : String) :
    (filename, (imports.register filename).1) ∈ (imports.register filename).2.entries := by
  rcases imports.register_cases filename with ⟨identifier, found, same⟩ | ⟨_, identifier, _, added⟩
  · rw [same]
    exact mem_of_lookup found
  · rw [added]
    simp

theorem distinct_empty : Distinct {} :=
  ⟨List.nodup_nil, List.nodup_nil⟩

theorem Distinct.register {imports : Imports} (distinct : Distinct imports) (filename : String) :
    Distinct (imports.register filename).2 := by
  rcases imports.register_cases filename with ⟨identifier, _, same⟩ | ⟨none, identifier, new, added⟩
  · rwa [same]
  have unknown : filename ∉ imports.entries.map (·.1) := lookup_eq_none_iff.1 none
  rw [added]
  constructor
  · rw [List.map_append, List.map_singleton, ← List.concat_eq_append]
    exact distinct.files.concat unknown
  · rw [Imports.identifiers, List.map_append, List.map_singleton, ← List.concat_eq_append]
    exact distinct.identifiers.concat new

/-- An entry ties its file and its identifier to each other. -/
theorem Distinct.find?_eq_some_iff {imports : Imports} (distinct : Distinct imports)
    {filename identifier : String} (mem : (filename, identifier) ∈ imports.entries)
    (other : String) : imports.find? other = some identifier ↔ other = filename := by
  constructor
  · intro found
    have entry : (other, identifier) ∈ imports.entries := mem_of_lookup found
    exact congrArg Prod.fst (List.inj_on_of_nodup_map distinct.identifiers entry mem rfl)
  · rintro rfl
    exact lookup_of_mem distinct.files mem

end Image.Imports

/-! ### Classes -/

namespace ClassTable

/-- The number in the name of a class is its place. -/
def Numbered (table : ClassTable) : Prop :=
  ∀ place entry, table.classes[place]? = some entry →
    ∃ stem, entry.1 = Name.numbered stem (place + 1)

theorem mint_eq (table : ClassTable) (stem : String) (declarations : List (String × String)) :
    table.mint stem declarations =
      (Name.numbered stem (table.size + 1),
        { classes :=
            table.classes ++ [(Name.numbered stem (table.size + 1), declarations)] }) :=
  rfl

theorem mem_mint (table : ClassTable) (stem : String) (declarations : List (String × String)) :
    ((table.mint stem declarations).1, declarations) ∈
      (table.mint stem declarations).2.classes :=
  List.mem_append_right _ List.mem_cons_self

theorem numbered_empty : Numbered {} := by
  intro place entry found
  cases found

theorem Numbered.mint {table : ClassTable} (numbered : Numbered table) (stem : String)
    (declarations : List (String × String)) : Numbered (table.mint stem declarations).2 := by
  intro place entry found
  rw [mint_eq, List.getElem?_append] at found
  split at found
  · exact numbered place entry found
  · rename_i behind
    rw [List.getElem?_singleton] at found
    split at found
    · cases found
      exact ⟨stem, by rw [size, show place = table.classes.length by omega]⟩
    · cases found

/-- Names with different numbers differ, whatever their stems are. -/
theorem Numbered.nodup {table : ClassTable} (numbered : Numbered table) :
    (table.classes.map (·.1)).Nodup := by
  rw [List.nodup_iff_getElem?_ne_getElem?]
  intro first second before bound same
  rw [List.length_map] at bound
  have within : first < table.classes.length := by omega
  obtain ⟨stem, name⟩ := numbered first _ (List.getElem?_eq_getElem within)
  obtain ⟨other, another⟩ := numbered second _ (List.getElem?_eq_getElem bound)
  rw [List.getElem?_map, List.getElem?_map, List.getElem?_eq_getElem within,
    List.getElem?_eq_getElem bound, Option.map_some, Option.map_some, Option.some.injEq, name,
    another, Name.numbered_inj] at same
  omega

theorem Numbered.find?_of_mem {table : ClassTable} (numbered : Numbered table) {name : String}
    {declarations : List (String × String)} (mem : (name, declarations) ∈ table.classes) :
    table.find? name = some declarations :=
  lookup_of_mem numbered.nodup mem

end ClassTable

/-! ### Growing tables -/

namespace Tables

/-- Tables with more behind the same entries. -/
structure Grown (earlier later : Tables) : Prop where
  images : earlier.images.entries <+: later.images.entries
  classes : earlier.classes.classes <+: later.classes.classes

theorem Grown.refl (tables : Tables) : Grown tables tables :=
  ⟨List.prefix_refl _, List.prefix_refl _⟩

theorem Grown.trans {earlier middle later : Tables} (first : Grown earlier middle)
    (second : Grown middle later) : Grown earlier later :=
  ⟨first.images.trans second.images, first.classes.trans second.classes⟩

/-- What makes an entry of a table the only one under its name. -/
structure Sound (tables : Tables) : Prop where
  images : tables.images.Distinct
  classes : tables.classes.Numbered

theorem sound_empty : Sound {} :=
  ⟨Image.Imports.distinct_empty, ClassTable.numbered_empty⟩

end Tables

end JsxPages
