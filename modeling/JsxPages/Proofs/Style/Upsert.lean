import JsxPages.Proofs.Tables.Lookup
import JsxPages.Style
/-!
# Entries set one after the other

Setting a key leaves all other keys where they are, and setting it again has the last word. So two
keys may be set in any order once one of them has its place (`upsert_comm`), and setting the entries
of a list that was itself made by setting entries comes to the same as setting all of these
(`upsertAll_upsert`). What comes of it has the earlier keys in their places, with the later values
where there are any, and the new keys behind them (`upsertAll_eq_override`).
-/

namespace JsxPages.Style

def keys (entries : List (String × String)) : List String :=
  entries.map (·.1)

/-! ### One entry -/

theorem mem_upsert {key value : String} {entries : List (String × String)} {entry : String × String}
    (mem : entry ∈ upsert key value entries) : entry = (key, value) ∨ entry ∈ entries := by
  induction entries with
  | nil => exact .inl (List.mem_singleton.1 mem)
  | cons first rest ih =>
    rw [upsert] at mem
    split at mem
    · exact (List.mem_cons.1 mem).imp_right (List.mem_cons_of_mem _)
    · rcases List.mem_cons.1 mem with rfl | later
      · exact .inr List.mem_cons_self
      · exact (ih later).imp_right (List.mem_cons_of_mem _)

theorem upsert_of_mem {entries : List (String × String)} {key : String}
    (distinct : (keys entries).Nodup) (known : key ∈ keys entries) (value : String) :
    upsert key value entries =
      entries.map fun entry => if entry.1 = key then (key, value) else entry := by
  induction entries with
  | nil => cases known
  | cons entry rest ih =>
    obtain ⟨fresh, others⟩ := List.nodup_cons.1 distinct
    rw [upsert, List.map_cons]
    by_cases here : entry.1 = key
    · have kept : ∀ other ∈ rest, (if other.1 = key then (key, value) else other) = other := by
        intro other mem
        apply if_neg
        intro same
        exact fresh (List.mem_map.2 ⟨other, mem, same.trans here.symm⟩)
      rw [if_pos here, if_pos here, List.map_congr_left kept, List.map_id']
    · rw [if_neg here, if_neg here, ih others]
      exact (List.mem_cons.1 known).resolve_left (Ne.symm here)

theorem upsert_of_notMem {entries : List (String × String)} {key : String}
    (free : key ∉ keys entries) (value : String) :
    upsert key value entries = entries ++ [(key, value)] := by
  induction entries with
  | nil => rfl
  | cons entry rest ih =>
    obtain ⟨apart, others⟩ := not_or.1 (mt List.mem_cons.2 free)
    rw [upsert, if_neg (Ne.symm apart), ih others]
    rfl

theorem keys_upsert (key value : String) (entries : List (String × String)) :
    keys (upsert key value entries) =
      if key ∈ keys entries then keys entries else keys entries ++ [key] := by
  induction entries with
  | nil => rfl
  | cons entry rest ih =>
    rw [upsert]
    by_cases here : entry.1 = key
    · rw [if_pos here, if_pos (by simp [keys, here])]
      show key :: keys rest = entry.1 :: keys rest
      rw [here]
    · have same : key ∈ keys (entry :: rest) ↔ key ∈ keys rest := by
        simp [keys, Ne.symm here]
      rw [if_neg here]
      show entry.1 :: keys (upsert key value rest) = _
      simp only [ih, same]
      split <;> rfl

theorem nodup_keys_upsert {entries : List (String × String)} (distinct : (keys entries).Nodup)
    (key value : String) : (keys (upsert key value entries)).Nodup := by
  rw [keys_upsert]
  split
  · exact distinct
  · rename_i free
    rw [← List.concat_eq_append]
    exact distinct.concat free

theorem mem_keys_upsert {entries : List (String × String)} {key other value : String}
    (known : key ∈ keys entries) : key ∈ keys (upsert other value entries) := by
  rw [keys_upsert]
  split
  · exact known
  · exact List.mem_append_left _ known

theorem upsert_upsert (key earlier later : String) (entries : List (String × String)) :
    upsert key later (upsert key earlier entries) = upsert key later entries := by
  induction entries with
  | nil => simp [upsert]
  | cons entry rest ih =>
    by_cases here : entry.1 = key
    · simp [upsert, here]
    · simp [upsert, here, ih]

/-- A key that has its place already may be set before or after another. -/
theorem upsert_comm {entries : List (String × String)} {key other : String} (apart : key ≠ other)
    (known : key ∈ keys entries) (value another : String) :
    upsert key value (upsert other another entries) =
      upsert other another (upsert key value entries) := by
  induction entries with
  | nil => cases known
  | cons entry rest ih =>
    by_cases here : entry.1 = key
    · have notOther : entry.1 ≠ other := by
        rw [here]
        exact apart
      simp [upsert, here, apart]
    · have behind : key ∈ keys rest := (List.mem_cons.1 known).resolve_left (Ne.symm here)
      by_cases there : entry.1 = other
      · simp [upsert, there, Ne.symm apart]
      · simp [upsert, here, there, ih behind]

/-! ### Many entries -/

/-- Entries with others set, one after the other. -/
def upsertAll (entries later : List (String × String)) : List (String × String) :=
  later.foldl (fun entries entry => upsert entry.1 entry.2 entries) entries

theorem upsertAll_cons (entries : List (String × String)) (entry : String × String)
    (later : List (String × String)) :
    upsertAll entries (entry :: later) = upsertAll (upsert entry.1 entry.2 entries) later :=
  rfl

/-- A key that has its place and is not set again may be set last. -/
theorem upsertAll_upsert_of_notMem {entries later : List (String × String)} {key : String}
    (known : key ∈ keys entries) (free : key ∉ keys later) (value : String) :
    upsertAll (upsert key value entries) later = upsert key value (upsertAll entries later) := by
  induction later generalizing entries with
  | nil => rfl
  | cons entry later ih =>
    obtain ⟨apart, others⟩ := not_or.1 (mt List.mem_cons.2 free)
    rw [upsertAll_cons, upsertAll_cons, ← upsert_comm apart known,
      ih (mem_keys_upsert known) others]

/-- Setting entries that were set one after the other is setting them all again. -/
theorem upsertAll_upsert (entries : List (String × String)) {later : List (String × String)}
    (distinct : (keys later).Nodup) (key value : String) :
    upsertAll entries (upsert key value later) = upsert key value (upsertAll entries later) := by
  induction later generalizing entries with
  | nil => rfl
  | cons entry later ih =>
    obtain ⟨fresh, others⟩ := List.nodup_cons.1 distinct
    rw [upsert, upsertAll_cons]
    by_cases here : entry.1 = key
    · obtain rfl := here
      have known : entry.1 ∈ keys (upsert entry.1 entry.2 entries) := by
        rw [keys_upsert]
        split
        · assumption
        · exact List.mem_append_right _ (List.mem_singleton_self _)
      rw [if_pos rfl, upsertAll_cons, ← upsertAll_upsert_of_notMem known fresh, upsert_upsert]
    · rw [if_neg here, upsertAll_cons, ih _ others]

/-! ### What is left of both -/

/-- Entries with the later values where there are any, and the later entries that are new. -/
def override (entries later : List (String × String)) : List (String × String) :=
  entries.map (fun entry => (entry.1, (later.lookup entry.1).getD entry.2)) ++
    later.filter fun entry => entry.1 ∉ keys entries

/-- A repeated key takes the later value in the earlier place, and new keys come behind. -/
theorem upsertAll_eq_override {entries later : List (String × String)}
    (distinct : (keys entries).Nodup) (apart : (keys later).Nodup) :
    upsertAll entries later = override entries later := by
  induction later generalizing entries with
  | nil => simp [upsertAll, override]
  | cons entry later ih =>
    obtain ⟨key, value⟩ := entry
    obtain ⟨fresh, others⟩ := List.nodup_cons.1 apart
    have notAgain : later.lookup key = none := lookup_eq_none_iff.2 fresh
    rw [upsertAll_cons, ih (nodup_keys_upsert distinct _ _) others, override, override, keys_upsert]
    by_cases known : key ∈ keys entries
    · rw [upsert_of_mem distinct known, if_pos known,
        List.filter_cons_of_neg (by simpa using known), List.map_map]
      congr 1
      apply List.map_congr_left
      intro other _
      by_cases here : other.1 = key
      · simp [here, notAgain]
      · simp [here, lookup_cons_of_ne here]
    · have new : ∀ other : String × String, other ∈ entries ∨ other ∈ later → other.1 ≠ key := by
        rintro other (mem | mem) same
        · exact known (List.mem_map.2 ⟨other, mem, same⟩)
        · exact fresh (List.mem_map.2 ⟨other, mem, same⟩)
      have earlier : ∀ other ∈ entries, ((other.1, (later.lookup other.1).getD other.2) :
          String × String) = (other.1, (((key, value) :: later).lookup other.1).getD other.2) := by
        intro other mem
        rw [lookup_cons_of_ne (new other (.inl mem))]
      have added : later.filter (fun other => other.1 ∉ keys entries ++ [key]) =
          later.filter fun other => other.1 ∉ keys entries := by
        apply List.filter_congr
        intro other mem
        simp [new other (.inr mem)]
      rw [upsert_of_notMem known, if_neg known, List.filter_cons_of_pos (by simpa using known),
        List.map_append, List.map_congr_left earlier, added, List.map_singleton, notAgain,
        List.append_assoc]
      rfl

end JsxPages.Style
