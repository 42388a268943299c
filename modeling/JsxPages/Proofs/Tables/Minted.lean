import JsxPages.Proofs.Tables.Entries
/-!
# Classes minted one after the other

Every call may come with another stem, and a stem may look like a name that was returned before,
with hyphens and numbers of its own. The number behind the last hyphen still tells which call a name
comes from, so no two calls return one name (`mintEach_unique`). The table is searched from its
start, and what it finds under a name are the declarations of the call that returned the name.
-/

namespace JsxPages.ClassTable

/-- The names that calls with stems and declarations return, and the table behind them. -/
def mintEach (table : ClassTable) :
    List (String × List (String × String)) → List String × ClassTable
  | [] => ([], table)
  | (stem, declarations) :: calls =>
    let (name, table) := table.mint stem declarations
    let (names, table) := table.mintEach calls
    (name :: names, table)

theorem mintEach_cons (table : ClassTable) (call : String × List (String × String))
    (calls : List (String × List (String × String))) :
    table.mintEach (call :: calls) =
      ((table.mint call.1 call.2).1 :: ((table.mint call.1 call.2).2.mintEach calls).1,
        ((table.mint call.1 call.2).2.mintEach calls).2) :=
  rfl

/-- A name has the number of its call. -/
theorem names_mintEach (table : ClassTable) (calls : List (String × List (String × String))) :
    (table.mintEach calls).1 =
      calls.mapIdx fun place call => Name.numbered call.1 (table.size + (place + 1)) := by
  induction calls generalizing table with
  | nil => rfl
  | cons call calls ih =>
    have size : (table.mint call.1 call.2).2.size = table.size + 1 := List.length_append
    rw [mintEach_cons, ih, size, List.mapIdx_cons, mint_eq]
    simp only [Nat.zero_add, Nat.add_assoc, Nat.add_comm 1]

/-- The table keeps each name with the declarations of its call, in the order of the calls. -/
theorem classes_mintEach (table : ClassTable) (calls : List (String × List (String × String))) :
    (table.mintEach calls).2.classes =
      table.classes ++ (table.mintEach calls).1.zip (calls.map (·.2)) := by
  induction calls generalizing table with
  | nil => exact (List.append_nil _).symm
  | cons call calls ih =>
    rw [mintEach_cons, ih, mint_eq, List.append_assoc, List.map_cons, List.zip_cons_cons,
      List.singleton_append]

theorem Numbered.mintEach {table : ClassTable} (numbered : Numbered table)
    (calls : List (String × List (String × String))) : Numbered (table.mintEach calls).2 := by
  induction calls generalizing table with
  | nil => exact numbered
  | cons call calls ih => exact ih (numbered.mint call.1 call.2)

/-- **No two calls return one name.** Whatever stems and declarations the calls come with: their
names have the numbers of the calls, no two are the same, and what is found under a name are the
declarations of its call. Nothing is found under other names. What a call stored is found from then
on, whatever is minted later. -/
theorem mintEach_unique (calls : List (String × List (String × String))) :
    let (names, table) := mintEach {} calls
    names = calls.mapIdx (fun place call => Name.numbered call.1 (place + 1)) ∧
    names.Nodup ∧
    (∀ name declarations, table.find? name = some declarations ↔
      (name, declarations) ∈ names.zip (calls.map (·.2))) ∧
    ∀ stem declarations later,
      let (name, next) := table.mint stem declarations
      (next.mintEach later).2.find? name = some declarations := by
  have numbered := numbered_empty.mintEach calls
  have names := names_mintEach {} calls
  have classes := classes_mintEach {} calls
  simp only [ClassTable.size, List.length_nil, Nat.zero_add] at names
  rw [List.nil_append] at classes
  have inTable : (mintEach {} calls).2.classes.map (·.1) = (mintEach {} calls).1 := by
    rw [classes, List.map_fst_zip]
    simp [names]
  refine ⟨names, inTable ▸ numbered.nodup, fun name declarations => ?_,
    fun stem declarations later => ?_⟩
  · rw [← classes]
    exact ⟨mem_of_lookup, numbered.find?_of_mem⟩
  · apply ((numbered.mint stem declarations).mintEach later).find?_of_mem
    rw [classes_mintEach]
    exact List.mem_append_left _ (mem_mint _ stem declarations)

example :
    let calls := [("a", [("--x", "1")]), ("a-1", [("--x", "2")]), ("a", []), ("a-1-2", [])]
    (mintEach {} calls).1 = ["a-1", "a-1-2", "a-3", "a-1-2-4"] ∧
      (mintEach {} calls).2.find? "a-1-2" = some [("--x", "2")] := by
  decide

end JsxPages.ClassTable
