import JsxPages.Options
import Mathlib.Tactic.SplitIfs
/-!
# Accepted options

What `check` lets through (`check_eq_ok`), and texts of a shape: they begin with one kind of
character and hold only another.
-/

namespace JsxPages.Options

theorem check_eq_ok {options : Options} :
    options.check = .ok () ↔
      isWrapperTag options.wrapperTag = true ∧
        (Text.trimChar '/' options.imagesDir).isEmpty = false ∧
        isClassStem options.classStem = true := by
  unfold check
  split_ifs <;> simp_all

theorem hasShape_iff {first others : Char → Bool} {text : String} :
    hasShape first others text = true ↔
      (∃ c rest, text.toList = c :: rest ∧ first c = true) ∧
        ∀ c ∈ text.toList, others c = true := by
  rw [hasShape, Bool.and_eq_true, List.all_eq_true]
  cases text.toList <;> simp

theorem hasShape_append {first others : Char → Bool} {text more : String}
    (shape : hasShape first others text = true)
    (behind : ∀ c ∈ more.toList, others c = true) :
    hasShape first others (text ++ more) = true := by
  obtain ⟨⟨c, rest, begins, isFirst⟩, all⟩ := hasShape_iff.1 shape
  refine hasShape_iff.2 ⟨⟨c, rest ++ more.toList, ?_, isFirst⟩, ?_⟩
  · rw [String.toList_append, begins, List.cons_append]
  · rw [String.toList_append]
    exact fun d mem => (List.mem_append.1 mem).elim (all d) (behind d)

end JsxPages.Options
