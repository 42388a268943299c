import JsxPages.Text.Split
import Mathlib.Data.List.Basic
import Mathlib.Data.List.TakeWhile
/-!
# Where a text is cut

`cutFirst` cuts at a character that the part in front does not hold, `cutLast` at one that the part
behind does not hold, and `beforeEnding` in front of an ending. `afterLast` keeps what stands behind
the last separator, `afterFirst` what stands behind the first occurrence of a marker. This is all
that has to be known of them, in both directions.
-/

namespace JsxPages.Text

theorem cutFirst_append {c : Char} {before : List Char} (free : c ∉ before) (after : List Char) :
    cutFirst c (before ++ c :: after) = some (before, after) := by
  have passed : ∀ d ∈ before, (d != c) = true := by
    rintro d mem
    rw [bne_iff_ne]
    rintro rfl
    exact free mem
  rw [cutFirst, List.dropWhile_append_of_pos passed, List.takeWhile_append_of_pos passed]
  simp

theorem cutFirst_eq_some {c : Char} {text before after : List Char}
    (cut : cutFirst c text = some (before, after)) :
    text = before ++ c :: after ∧ c ∉ before := by
  have whole := List.takeWhile_append_dropWhile (p := (· != c)) (l := text)
  unfold cutFirst at cut
  split at cut
  · cases cut
  · rename_i d rest dropped
    obtain ⟨rfl, rfl⟩ : text.takeWhile (· != c) = before ∧ rest = after := by simpa using cut
    have found : d = c := by
      have head := List.head?_dropWhile_not (· != c) text
      simpa [dropped] using head
    rw [dropped, found] at whole
    refine ⟨whole.symm, fun mem => ?_⟩
    simpa using List.mem_takeWhile_imp mem

theorem cutLast_eq_some {c : Char} {text before after : List Char}
    (cut : cutLast c text = some (before, after)) : text = before ++ c :: after := by
  obtain ⟨⟨behind, front⟩, found, same⟩ := Option.map_eq_some_iff.1 cut
  obtain ⟨rfl, rfl⟩ := Prod.mk.inj same
  have whole := congrArg List.reverse (cutFirst_eq_some found).1
  simpa using whole

theorem cutLast_append {c : Char} {after : List Char} (free : c ∉ after) (before : List Char) :
    cutLast c (before ++ c :: after) = some (before, after) := by
  have cut := cutFirst_append (mt List.mem_reverse.1 free) before.reverse
  have turned : (before ++ c :: after).reverse = after.reverse ++ c :: before.reverse := by simp
  rw [cutLast, turned, cut]
  simp

theorem beforeEnding_eq_some_iff {ending text before : List Char} :
    beforeEnding ending text = some before ↔ text = before ++ ending := by
  have turned (rest : List Char) :
      ending.reverse ++ rest = text.reverse ↔ text = rest.reverse ++ ending := by
    rw [← List.reverse_inj, List.reverse_append, List.reverse_reverse, List.reverse_reverse,
      eq_comm]
  constructor
  · intro cut
    obtain ⟨rest, found, rfl⟩ := Option.map_eq_some_iff.1 cut
    exact (turned rest).1 (List.isPrefixOf?_eq_some_iff_append_eq.1 found)
  · intro whole
    refine Option.map_eq_some_iff.2 ⟨before.reverse, ?_, List.reverse_reverse before⟩
    exact List.isPrefixOf?_eq_some_iff_append_eq.2 ((turned _).2 (by rwa [List.reverse_reverse]))

/-! ### Parts behind a separator or a marker -/

/-- What stands behind the last `c` of a text; the whole text where there is none. -/
def IsLastPart (c : Char) (text part : List Char) : Prop :=
  c ∉ part ∧ (text = part ∨ ∃ before, text = before ++ c :: part)

theorem afterLast_eq_iff {c : Char} {text part : List Char} :
    afterLast c text = part ↔ IsLastPart c text part := by
  constructor
  · rintro rfl
    refine ⟨fun mem => ?_, ?_⟩
    · simpa using List.mem_takeWhile_imp (List.mem_reverse.1 mem)
    · have whole := List.takeWhile_append_dropWhile (p := (· != c)) (l := text.reverse)
      have found := List.head?_dropWhile_not (· != c) text.reverse
      cases behind : text.reverse.dropWhile (· != c) with
      | nil =>
        rw [behind, List.append_nil] at whole
        exact .inl (by rw [afterLast, whole, List.reverse_reverse])
      | cons d before =>
        rw [behind] at whole found
        obtain rfl : d = c := by simpa using found
        have turned := congrArg List.reverse whole
        exact .inr ⟨before.reverse, by simpa [afterLast] using turned.symm⟩
  · rintro ⟨free, whole⟩
    have passed : ∀ d ∈ part.reverse, (d != c) = true := by
      intro d mem
      rw [bne_iff_ne]
      rintro rfl
      exact free (List.mem_reverse.1 mem)
    rcases whole with rfl | ⟨before, rfl⟩
    · rw [afterLast, List.takeWhile_eq_self_iff.2 passed, List.reverse_reverse]
    · rw [afterLast, List.reverse_append, List.reverse_cons, List.append_assoc,
        List.takeWhile_append_of_pos passed]
      simp

/-- What stands behind a marker where it occurs first. -/
def IsBehindFirst (marker text behind : List Char) : Prop :=
  ∃ before, text = before ++ (marker ++ behind) ∧
    ∀ earlier rest, text = earlier ++ (marker ++ rest) → before.length ≤ earlier.length

theorem isPrefixOf?_eq_none_iff {marker text : List Char} :
    marker.isPrefixOf? text = none ↔ ∀ rest, text ≠ marker ++ rest := by
  rw [Option.eq_none_iff_forall_ne_some]
  exact forall_congr' fun rest => not_congr (List.isPrefixOf?_eq_some_iff_append_eq.trans eq_comm)

theorem isBehindFirst_cons {marker rest behind : List Char} {c : Char} :
    IsBehindFirst marker (c :: rest) behind ↔ c :: rest = marker ++ behind ∨
      (∀ later, c :: rest ≠ marker ++ later) ∧ IsBehindFirst marker rest behind := by
  constructor
  · rintro ⟨before, whole, first⟩
    cases before with
    | nil => exact .inl whole
    | cons d before =>
      obtain ⟨rfl, tail⟩ := List.cons.inj whole
      refine .inr ⟨fun later here => ?_, before, tail, fun earlier later there => ?_⟩
      · have none := first [] later here
        simp at none
      · have notBehind := first (c :: earlier) later (congrArg (c :: ·) there)
        simpa using notBehind
  · rintro (here | ⟨notHere, before, rfl, first⟩)
    · exact ⟨[], here, fun _ _ _ => Nat.zero_le _⟩
    · refine ⟨c :: before, rfl, fun earlier later there => ?_⟩
      cases earlier with
      | nil => exact absurd there (notHere later)
      | cons d earlier => exact Nat.succ_le_succ (first earlier later (List.cons.inj there).2)

theorem afterFirst_eq_some_iff {marker text behind : List Char} :
    afterFirst marker text = some behind ↔ IsBehindFirst marker text behind := by
  induction text with
  | nil =>
    rw [afterFirst, List.isPrefixOf?_eq_some_iff_append_eq]
    constructor
    · intro whole
      exact ⟨[], whole.symm, fun _ _ _ => Nat.zero_le _⟩
    · rintro ⟨before, whole, _⟩
      exact (List.append_eq_nil_iff.1 whole.symm).2
  | cons c rest ih =>
    rw [afterFirst, Option.or_eq_some_iff, List.isPrefixOf?_eq_some_iff_append_eq,
      isPrefixOf?_eq_none_iff, ih, isBehindFirst_cons, eq_comm (a := c :: rest)]

theorem afterFirst_eq_none_iff {marker text : List Char} :
    afterFirst marker text = none ↔ ¬ marker <:+: text := by
  induction text with
  | nil =>
    rw [afterFirst, isPrefixOf?_eq_none_iff, List.infix_nil]
    refine ⟨fun none empty => none [] (by rw [empty]; rfl), fun some rest whole => ?_⟩
    exact some (List.append_eq_nil_iff.1 whole.symm).1
  | cons c rest ih =>
    rw [afterFirst, Option.or_eq_none_iff, isPrefixOf?_eq_none_iff, ih, List.infix_cons_iff, not_or]
    refine and_congr_left fun _ => ⟨?_, ?_⟩
    · rintro none ⟨behind, whole⟩
      exact none behind whole.symm
    · rintro none behind whole
      exact none ⟨behind, whole.symm⟩

end JsxPages.Text
