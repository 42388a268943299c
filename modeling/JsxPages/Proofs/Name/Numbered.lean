import JsxPages.Name.Case
import Mathlib.Data.List.Nodup
import Mathlib.Data.List.Perm.Subperm
/-!
# Names with numbers

A number is written in digits, so a name that ends in a hyphen and a number can be taken apart
again: whatever stands in front, the last hyphen is that of the number. And of a name and its
numbered forms, one more than there are taken names, one is not taken.
-/

namespace JsxPages.Name

/-- A name with a number behind a hyphen. -/
def numbered (stem : String) (number : Nat) : String :=
  stem ++ "-" ++ Nat.repr number

theorem isDigit_of_mem_repr {number : Nat} {c : Char} (mem : c ∈ (Nat.repr number).toList) :
    c.isDigit = true := by
  rw [Nat.toList_repr] at mem
  exact Nat.isDigit_of_mem_toDigits (by decide) (by decide) mem

theorem hyphen_notMem_repr (number : Nat) : '-' ∉ (Nat.repr number).toList := by
  intro mem
  have digit := isDigit_of_mem_repr mem
  simp at digit

/-- The digits of a number are read back as the number. -/
theorem repr_inj {number another : Nat} (same : Nat.repr number = Nat.repr another) :
    number = another := by
  have digits : Nat.toDigits 10 number = Nat.toDigits 10 another := by
    rw [← Nat.toList_repr, same, Nat.toList_repr]
  rw [← Nat.ofDigitChars_ten_toDigits (n := number), digits, Nat.ofDigitChars_ten_toDigits]

/-- What stands behind the last separator is as much of a text as can be read without one. -/
theorem append_cons_inj {before other after another : List Char} {c : Char}
    (notAfter : c ∉ after) (notAnother : c ∉ another)
    (same : before ++ c :: after = other ++ c :: another) : before = other ∧ after = another := by
  rcases List.append_eq_append_iff.1 same with ⟨between, rfl, rest⟩ | ⟨between, rfl, rest⟩
  all_goals
    rcases List.cons_eq_append_iff.1 rest with ⟨rfl, tail⟩ | ⟨more, rfl, rfl⟩
    · exact ⟨by simp, by simpa [eq_comm] using tail⟩
    · simp at notAfter notAnother

/-- The stem and the number of a name can be read off it. -/
theorem numbered_inj {stem other : String} {number another : Nat} :
    numbered stem number = numbered other another ↔ stem = other ∧ number = another := by
  constructor
  · intro same
    have lists : stem.toList ++ '-' :: (Nat.repr number).toList =
        other.toList ++ '-' :: (Nat.repr another).toList := by
      simpa [numbered] using congrArg String.toList same
    obtain ⟨stems, numbers⟩ :=
      append_cons_inj (hyphen_notMem_repr number) (hyphen_notMem_repr another) lists
    exact ⟨String.toList_inj.1 stems, repr_inj (String.toList_inj.1 numbers)⟩
  · rintro ⟨rfl, rfl⟩
    rfl

/-! ### Names that are not taken -/

theorem candidates_nodup (base : String) (taken : List String) : (candidates base taken).Nodup := by
  have longer (number : Nat) : base ≠ base ++ Nat.repr number := by
    intro same
    exact Nat.repr_ne_empty (String.append_eq_left_iff.1 same.symm)
  have apart : Function.Injective fun n : Nat => base ++ Nat.repr (n + 2) := by
    intro number another same
    have digits := repr_inj ((String.append_right_inj base).1 same)
    omega
  refine List.nodup_cons.2 ⟨?_, List.nodup_range.map apart⟩
  intro mem
  obtain ⟨n, _, same⟩ := List.mem_map.1 mem
  exact longer _ same.symm

theorem fresh_cases (base : String) (taken : List String) :
    fresh base taken = base ∨ ∃ number, fresh base taken = base ++ Nat.repr number := by
  unfold fresh
  cases found : (candidates base taken).find? fun name => !taken.contains name with
  | none => exact .inl rfl
  | some name =>
    rcases List.mem_cons.1 (List.mem_of_find?_eq_some found) with same | mem
    · exact .inl same
    · obtain ⟨n, _, same⟩ := List.mem_map.1 mem
      exact .inr ⟨n + 2, same.symm⟩

/-- The least number that makes a name new is found. -/
theorem fresh_notMem (base : String) (taken : List String) : fresh base taken ∉ taken := by
  have length : (candidates base taken).length = taken.length + 1 := by simp [candidates]
  cases found : (candidates base taken).find? fun name => !taken.contains name with
  | none =>
    -- all candidates would be taken, but there are more of them than taken names
    have all : candidates base taken ⊆ taken := by
      intro name mem
      simpa using List.find?_eq_none.1 found name mem
    have bound := (List.subperm_of_subset (candidates_nodup base taken) all).length_le
    omega
  | some name =>
    have new := List.find?_some found
    rw [fresh, found]
    simpa using new

/-! ### The search for a new name -/

/-- The forms of a name in the order in which they are tried. -/
def form (base : String) : Nat → String
  | 0 => base
  | count + 1 => base ++ Nat.repr (count + 2)

/-- The name that the search ends with: the first form that is not taken. -/
def IsFirstFree (base : String) (taken : List String) (name : String) : Prop :=
  ∃ count ≤ taken.length, name = form base count ∧ name ∉ taken ∧
    ∀ earlier < count, form base earlier ∈ taken

theorem candidates_eq (base : String) (taken : List String) :
    candidates base taken = (List.range (taken.length + 1)).map (form base) := by
  rw [List.range_succ_eq_map, List.map_cons, List.map_map]
  rfl

/-- **The search ends**, however many names are taken. -/
theorem isFirstFree_fresh (base : String) (taken : List String) :
    IsFirstFree base taken (fresh base taken) := by
  have free := fresh_notMem base taken
  unfold fresh at free ⊢
  cases found : (candidates base taken).find? fun name => !taken.contains name with
  | none =>
    have isTaken := List.find?_eq_none.1 found base List.mem_cons_self
    rw [found] at free
    exact absurd (by simpa using isTaken) free
  | some name =>
    rw [found] at free
    obtain ⟨_, place, bound, here, before⟩ := List.find?_eq_some_iff_getElem.1 found
    simp only [candidates_eq, List.length_map, List.length_range, List.getElem_map,
      List.getElem_range] at bound here before
    refine ⟨place, by omega, here.symm, free, ?_⟩
    intro earlier isEarlier
    simpa using before earlier isEarlier

end JsxPages.Name
