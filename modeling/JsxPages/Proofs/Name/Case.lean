import JsxPages.Name.Case
import JsxPages.Proofs.Text.Ascii
import JsxPages.Proofs.Text.Cuts
/-!
# Letter case in names

What writing a name in camel case can and cannot give: no separators, no small letter behind one,
and letters for letters only. The capital behind a colon is that of all scripts, so it may be ASCII
where the name is not: `ß` gives `SS`. But it never is a small letter of ASCII, and never a sign that
did not stand in the name (`mem_upper_cases`).
-/

namespace JsxPages

namespace Text

theorem isUpper_of_isAlpha {c : Char} (alpha : c.isAlpha = true) (notLower : c.isLower = false) :
    c.isUpper = true := by
  have kinds : (c.isUpper || c.isLower) = true := alpha
  rwa [notLower, Bool.or_false] at kinds

/-- Letter case is of no matter to a character that is no letter. -/
theorem mem_lower_iff {text : String} {c : Char} (sign : c.isAlpha = false) :
    c ∈ (lower text).toList ↔ c ∈ text.toList := by
  have same (d : Char) : d.toLower = c ↔ d = c := by
    constructor
    · rintro rfl
      exact ((toLower_cases d).resolve_left (by rw [sign]; decide)).symm
    · rintro rfl
      exact (toLower_cases d).resolve_left (by rw [isAlpha_toLower, sign]; decide)
  simp only [lower, String.toList_ofList, List.mem_map, same, exists_eq_right]

theorem isUpper_of_toNat {c : Char} (low : 65 ≤ c.toNat) (high : c.toNat ≤ 90) :
    c.isUpper = true :=
  decide_eq_true ⟨UInt32.le_iff_toNat_le.2 low, UInt32.le_iff_toNat_le.2 high⟩

theorem ofNat_cases {code : Nat} (valid : code.isValidChar)
    (range : 128 ≤ code ∨ 65 ≤ code ∧ code ≤ 90) :
    (Char.ofNat code).isUpper = true ∨ 128 ≤ (Char.ofNat code).toNat := by
  have same : (Char.ofNat code).toNat = code := by
    rw [Char.ofNat, dif_pos valid]
    rfl
  rcases range with beyond | ⟨low, high⟩
  · exact .inr (by omega)
  · exact .inl (isUpper_of_toNat (by omega) (by omega))

/-- The upper case of a character in any script: capitals, characters beyond ASCII, or the character
itself if it is no small letter of ASCII. -/
theorem mem_upper_cases {c d : Char} (mem : d ∈ upper c) :
    (d.isUpper = true ∨ 128 ≤ d.toNat) ∨ d = c ∧ c.isLower = false := by
  have long : ∀ entry ∈ longUppers, ∀ code ∈ entry.2,
      code < 0xD800 ∧ (128 ≤ code ∨ 65 ≤ code ∧ code ≤ 90) := by decide +kernel
  have runs : ∀ run ∈ caseRuns,
      (run.last + run.distance < 0xD800 ∨ 0xDFFF < run.first + run.distance) ∧
        run.last + run.distance < 0x110000 ∧ (128 ≤ run.first + run.distance ∨
          65 ≤ run.first + run.distance ∧ run.last + run.distance ≤ 90) := by decide +kernel
  unfold upper at mem
  split at mem
  · rw [List.mem_singleton.1 mem]
    exact (toUpper_eq_cases c).imp_left .inl
  split at mem
  · rename_i codes found
    obtain ⟨before, after, whole, _⟩ := List.lookup_eq_some_iff.1 found
    obtain ⟨code, isCode, rfl⟩ := List.mem_map.1 mem
    obtain ⟨valid, range⟩ := long (c.toNat, codes) (by simp [whole]) code isCode
    exact .inl (ofNat_cases (.inl valid) range)
  split at mem
  · rename_i run found
    obtain ⟨apart, bound, range⟩ := runs run (List.mem_of_find?_eq_some found)
    have inRun := List.find?_some found
    simp only [CaseRun.contains, Bool.and_eq_true, decide_eq_true_eq] at inRun
    rw [List.mem_singleton.1 mem]
    refine .inl (ofNat_cases ?_ (by omega))
    rw [Nat.isValidChar]
    omega
  · rename_i notAscii _ _
    rw [List.mem_singleton.1 mem]
    exact .inr ⟨rfl, isLower_of_beyond (by omega)⟩

theorem upper_ne_nil (c : Char) : upper c ≠ [] := by
  have long : ∀ entry ∈ longUppers, entry.2 ≠ [] := by decide +kernel
  unfold upper
  split
  · exact List.cons_ne_nil _ _
  split
  · rename_i codes found
    obtain ⟨before, after, whole, _⟩ := List.lookup_eq_some_iff.1 found
    rw [Ne, List.map_eq_nil_iff]
    exact long (c.toNat, codes) (by simp [whole])
  split
  · exact List.cons_ne_nil _ _
  · exact List.cons_ne_nil _ _

theorem isLower_of_mem_upper {c d : Char} (mem : d ∈ upper c) : d.isLower = false := by
  rcases mem_upper_cases mem with (capital | beyond) | ⟨rfl, notLower⟩
  · exact isLower_of_isUpper capital
  · exact isLower_of_beyond beyond
  · exact notLower

end Text

namespace Name

/-! ### Camel case -/

theorem isSeparator_of_isAlpha {c : Char} (alpha : c.isAlpha = true) : isSeparator c = false :=
  Text.of_isAlphanum (P := fun c => isSeparator c = false) (by decide)
    (Text.isAlphanum_of_isAlpha alpha)

theorem isSeparator_of_beyond {c : Char} (beyond : 128 ≤ c.toNat) : isSeparator c = false := by
  rw [← Bool.not_eq_true]
  intro separates
  simp only [isSeparator, Bool.or_eq_true, beq_iff_eq] at separates
  rcases separates with (rfl | rfl) | rfl <;> revert beyond <;> decide

theorem isSeparator_toUpper {c : Char} (solid : isSeparator c = false) :
    isSeparator c.toUpper = false := by
  rcases Text.toUpper_eq_cases c with capital | ⟨same, _⟩
  · exact isSeparator_of_isAlpha (Text.isAlpha_of_isUpper capital)
  · rwa [same]

/-- No separator is left in camel case. -/
theorem isSeparator_camelTail {capital : Bool} {text : List Char} :
    ∀ c ∈ camelTail capital text, isSeparator c = false := by
  induction text generalizing capital with
  | nil => exact nofun
  | cons c rest ih =>
    rw [camelTail]
    split
    · exact ih
    · rename_i solid
      rw [Bool.not_eq_true] at solid
      refine List.forall_mem_cons.2 ⟨?_, ih⟩
      split
      · exact isSeparator_toUpper solid
      · exact solid

theorem isSeparator_camelCase (name : String) :
    ∀ c ∈ (camelCase name).toList, isSeparator c = false := by
  rw [camelCase, String.toList_ofList]
  exact isSeparator_camelTail

theorem isSeparator_capitalize {name : String}
    (solid : ∀ c ∈ name.toList, isSeparator c = false) :
    ∀ c ∈ (Text.capitalize name).toList, isSeparator c = false := by
  unfold Text.capitalize
  split
  · simp
  · rename_i c rest spelled
    rw [spelled] at solid
    obtain ⟨first, others⟩ := List.forall_mem_cons.1 solid
    rw [String.toList_ofList, List.forall_mem_append]
    refine ⟨fun d mem => ?_, others⟩
    rcases Text.mem_upper_cases mem with (capital | beyond) | ⟨rfl, _⟩
    · exact isSeparator_of_isAlpha (Text.isAlpha_of_isUpper capital)
    · exact isSeparator_of_beyond beyond
    · exact first

theorem camelTail_eq_nil_iff {capital : Bool} {text : List Char} :
    camelTail capital text = [] ↔ ∀ c ∈ text, isSeparator c = true := by
  induction text generalizing capital with
  | nil => simp [camelTail]
  | cons c rest ih =>
    rw [camelTail, List.forall_mem_cons]
    split
    · rename_i separates
      rw [ih, separates, eq_self, true_and]
    · rename_i solid
      simp [solid]

/-- What is written in camel case are letters if nothing but letters stood between separators. -/
theorem isAlpha_camelTail_iff {capital : Bool} {text : List Char} :
    (∀ c ∈ camelTail capital text, c.isAlpha = true) ↔
      ∀ c ∈ text, isSeparator c = true ∨ c.isAlpha = true := by
  induction text generalizing capital with
  | nil => simp [camelTail]
  | cons c rest ih =>
    rw [camelTail, List.forall_mem_cons]
    split
    · rename_i separates
      rw [ih, separates, eq_self, true_or, true_and]
    · rename_i solid
      rw [List.forall_mem_cons, ih, or_iff_right solid]
      refine and_congr_left fun _ => ?_
      split
      · rw [Text.isAlpha_toUpper]
      · exact Iff.rfl

/-- Behind a separator no small letter is written. -/
theorem isLower_of_camelTail {text rest : List Char} {c : Char}
    (written : camelTail true text = c :: rest) : c.isLower = false := by
  induction text with
  | nil => cases written
  | cons d text ih =>
    rw [camelTail] at written
    split at written
    · exact ih written
    · obtain ⟨rfl, _⟩ := List.cons.inj written
      exact Text.isLower_toUpper d

/-- What camel case goes on with stands there itself, or it stands behind a separator and is no small
letter. -/
theorem camelTail_eq_cons {text written : List Char} {c : Char}
    (tail : camelTail false text = c :: written) :
    (∃ rest, text = c :: rest ∧ camelTail false rest = written) ∨
      c.isLower = false ∧ ∃ separator rest, text = separator :: rest ∧
        isSeparator separator = true ∧ camelTail true rest = c :: written := by
  cases text with
  | nil => cases tail
  | cons d rest =>
    rw [camelTail] at tail
    split at tail
    · rename_i separates
      exact .inr ⟨isLower_of_camelTail tail, d, rest, rfl, separates, tail⟩
    · obtain ⟨same, behind⟩ := List.cons.inj tail
      obtain rfl : d = c := same
      exact .inl ⟨rest, rfl, behind⟩

end Name

end JsxPages
