import Mathlib.Data.List.Nodup
/-!
# Entries under their keys

A lookup finds the first entry with a key. Where no key stands twice, this is every entry.
-/

namespace JsxPages

variable {α β : Type} [BEq α] [LawfulBEq α] {entries : List (α × β)} {key : α} {value : β}

/-- Where no two entries have one key, every entry is found under its key. -/
theorem lookup_of_mem (distinct : (entries.map (·.1)).Nodup) (mem : (key, value) ∈ entries) :
    entries.lookup key = some value := by
  obtain ⟨before, after, rfl⟩ := List.append_of_mem mem
  refine List.lookup_eq_some_iff.2 ⟨before, after, rfl, fun entry earlier => ?_⟩
  rw [List.map_append, List.map_cons, List.nodup_append] at distinct
  have apart := distinct.2.2 entry.1 (List.mem_map_of_mem earlier) key List.mem_cons_self
  simpa using apart.symm

theorem mem_of_lookup (found : entries.lookup key = some value) : (key, value) ∈ entries := by
  obtain ⟨before, after, rfl, _⟩ := List.lookup_eq_some_iff.1 found
  simp

theorem isSome_lookup_iff : (entries.lookup key).isSome ↔ key ∈ entries.map (·.1) := by
  simp only [List.lookup_isSome_iff, beq_iff_eq, List.mem_map, @eq_comm _ key]

theorem lookup_eq_none_iff : entries.lookup key = none ↔ key ∉ entries.map (·.1) := by
  rw [← isSome_lookup_iff, Option.not_isSome_iff_eq_none]

theorem lookup_cons_self (rest : List (α × β)) : ((key, value) :: rest).lookup key = some value := by
  rw [List.lookup_cons, BEq.rfl]

theorem lookup_cons_of_ne {other : α} (apart : key ≠ other) (rest : List (α × β)) :
    ((other, value) :: rest).lookup key = rest.lookup key := by
  rw [List.lookup_cons, beq_eq_false_iff_ne.2 apart]

theorem lookup_cons [DecidableEq α] (key other : α) (value : β) (rest : List (α × β)) :
    ((key, value) :: rest).lookup other =
      if other = key then some value else rest.lookup other := by
  split
  · rename_i same
    rw [same, lookup_cons_self]
  · rename_i apart
    exact lookup_cons_of_ne apart rest

end JsxPages
