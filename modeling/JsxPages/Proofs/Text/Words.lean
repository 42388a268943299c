import JsxPages.Text.Blank
import Mathlib.Data.List.TakeWhile
/-!
# The words of a text

Cutting a text at white space loses the white space and nothing else. So a text has words unless all
of it is white space, and a text without white space is its own only word.
-/

namespace JsxPages.Text

theorem flatten_consFirst (c : Char) (parts : List (List Char)) :
    (consFirst c parts).flatten = c :: parts.flatten := by
  cases parts <;> rfl

/-- Nothing but separators is lost. -/
theorem flatten_splitWhere (p : Char → Bool) (text : List Char) :
    (splitWhere p text).flatten = text.filter (!p ·) := by
  induction text with
  | nil => rfl
  | cons c rest ih =>
    rw [splitWhere]
    cases separates : p c with
    | true => simpa [separates] using ih
    | false => simpa [separates, flatten_consFirst] using ih

theorem flatten_wordsWhere (p : Char → Bool) (text : List Char) :
    (wordsWhere p text).flatten = text.filter (!p ·) := by
  rw [wordsWhere, List.flatten_filter_not_isEmpty, flatten_splitWhere]

/-- A part holds no separators. -/
theorem separates_of_mem_splitWhere {p : Char → Bool} {text part : List Char} {c : Char}
    (isPart : part ∈ splitWhere p text) (mem : c ∈ part) : p c = false := by
  have inText : c ∈ (splitWhere p text).flatten := List.mem_flatten.2 ⟨part, isPart, mem⟩
  rw [flatten_splitWhere] at inText
  simpa using (List.mem_filter.1 inText).2

theorem separates_of_mem_wordsWhere {p : Char → Bool} {text word : List Char} {c : Char}
    (isWord : word ∈ wordsWhere p text) (mem : c ∈ word) : p c = false :=
  separates_of_mem_splitWhere (List.mem_filter.1 isWord).1 mem

theorem splitWhere_of_none {p : Char → Bool} {text : List Char} (none : ∀ c ∈ text, p c = false) :
    splitWhere p text = [text] := by
  induction text with
  | nil => rfl
  | cons c rest ih =>
    obtain ⟨first, others⟩ := List.forall_mem_cons.1 none
    rw [splitWhere, first, ih others]
    rfl

theorem splitWhere_ne_nil (p : Char → Bool) (text : List Char) : splitWhere p text ≠ [] := by
  cases text with
  | nil => simp [splitWhere]
  | cons c rest =>
    rw [splitWhere]
    split
    · simp
    · cases splitWhere p rest <;> simp [consFirst]

theorem splitWhere_append {p : Char → Bool} {c : Char} (separates : p c = true)
    (before after : List Char) :
    splitWhere p (before ++ c :: after) = splitWhere p before ++ splitWhere p after := by
  induction before with
  | nil => simp [splitWhere, separates]
  | cons d before ih =>
    rw [List.cons_append, splitWhere, splitWhere, ih]
    split
    · rfl
    · cases parts : splitWhere p before with
      | nil => exact absurd parts (splitWhere_ne_nil p before)
      | cons part parts => rfl

/-- A text holds no separator, or there is a first one. -/
theorem exists_first (p : Char → Bool) (text : List Char) :
    (∀ c ∈ text, p c = false) ∨ ∃ first c rest, text = first ++ c :: rest ∧
      (∀ d ∈ first, p d = false) ∧ p c = true := by
  induction text with
  | nil => exact .inl fun _ mem => by cases mem
  | cons c text ih =>
    cases separates : p c with
    | true => exact .inr ⟨[], c, text, rfl, by simp, separates⟩
    | false =>
      rcases ih with none | ⟨first, d, rest, rfl, free, found⟩
      · exact .inl (List.forall_mem_cons.2 ⟨separates, none⟩)
      · exact .inr ⟨c :: first, d, rest, rfl, List.forall_mem_cons.2 ⟨separates, free⟩, found⟩

theorem exists_last (p : Char → Bool) (text : List Char) :
    (∀ c ∈ text, p c = false) ∨ ∃ front c last, text = front ++ c :: last ∧
      (∀ d ∈ last, p d = false) ∧ p c = true := by
  rcases exists_first p text.reverse with none | ⟨first, c, rest, turned, free, found⟩
  · exact .inl fun c mem => none c (List.mem_reverse.2 mem)
  · refine .inr ⟨rest.reverse, c, first.reverse, ?_,
      fun d mem => free d (List.mem_reverse.1 mem), found⟩
    rw [← List.reverse_reverse text, turned]
    simp

theorem splitWhere_first {p : Char → Bool} {first : List Char} {c : Char}
    (free : ∀ d ∈ first, p d = false) (separates : p c = true) (rest : List Char) :
    splitWhere p (first ++ c :: rest) = first :: splitWhere p rest := by
  rw [splitWhere_append separates, splitWhere_of_none free]
  rfl

theorem splitWhere_last {p : Char → Bool} {last : List Char} {c : Char}
    (free : ∀ d ∈ last, p d = false) (separates : p c = true) (front : List Char) :
    splitWhere p (front ++ c :: last) = splitWhere p front ++ [last] := by
  rw [splitWhere_append separates, splitWhere_of_none free]

/-- What is not cut in front of a text belongs to its first part. -/
theorem splitWhere_append_of_none {p : Char → Bool} {before text part : List Char}
    {parts : List (List Char)} (none : ∀ c ∈ before, p c = false)
    (cut : splitWhere p text = part :: parts) :
    splitWhere p (before ++ text) = (before ++ part) :: parts := by
  induction before with
  | nil => exact cut
  | cons c before ih =>
    obtain ⟨first, others⟩ := List.forall_mem_cons.1 none
    rw [List.cons_append, splitWhere, first, ih others]
    rfl

/-- Trimming takes the same kind of characters from both ends. -/
theorem exists_trimWhere (p : Char → Bool) (text : List Char) :
    ∃ before after, text = before ++ trimWhere p text ++ after ∧
      (∀ c ∈ before, p c = true) ∧ ∀ c ∈ after, p c = true := by
  have ends := List.takeWhile_append_dropWhile (p := p) (l := (text.dropWhile p).reverse)
  refine ⟨text.takeWhile p, ((text.dropWhile p).reverse.takeWhile p).reverse, ?_,
    fun c mem => List.mem_takeWhile_imp mem,
    fun c mem => List.mem_takeWhile_imp (List.mem_reverse.1 mem)⟩
  rw [trimWhere, List.append_assoc, ← List.reverse_append, ends, List.reverse_reverse,
    List.takeWhile_append_dropWhile]

theorem mem_trimWhere_iff {p : Char → Bool} {text : List Char} {c : Char} (solid : p c = false) :
    c ∈ trimWhere p text ↔ c ∈ text := by
  obtain ⟨before, after, whole, taken, takenBehind⟩ := exists_trimWhere p text
  have stays {part : List Char} (all : ∀ d ∈ part, p d = true) : c ∉ part := by
    intro mem
    rw [all c mem] at solid
    cases solid
  have parts : c ∈ text ↔ c ∈ before ++ trimWhere p text ++ after := by rw [← whole]
  rw [parts, List.mem_append, List.mem_append, or_iff_left (stays takenBehind),
    or_iff_right (stays taken)]

theorem dropWhile_of_head {p : Char → Bool} {text : List Char}
    (head : ∀ c ∈ text.head?, p c = false) : text.dropWhile p = text := by
  cases text with
  | nil => rfl
  | cons c rest => rw [List.dropWhile_cons_of_neg (by simp [head c rfl])]

theorem of_mem_head?_dropWhile {p : Char → Bool} {text : List Char} {c : Char}
    (head : c ∈ (text.dropWhile p).head?) : p c = false := by
  have kept := List.head?_dropWhile_not p text
  rw [Option.mem_def.1 head] at kept
  exact kept

theorem trimWhere_of_ends {p : Char → Bool} {text : List Char}
    (first : ∀ c ∈ text.head?, p c = false) (last : ∀ c ∈ text.reverse.head?, p c = false) :
    trimWhere p text = text := by
  rw [trimWhere, dropWhile_of_head first, dropWhile_of_head last, List.reverse_reverse]

theorem trimWhere_of_none {p : Char → Bool} {text : List Char} (none : ∀ c ∈ text, p c = false) :
    trimWhere p text = text := by
  apply trimWhere_of_ends
  · intro c head
    exact none c (List.mem_of_mem_head? head)
  · intro c head
    exact none c (List.mem_reverse.1 (List.mem_of_mem_head? head))

theorem mem_head?_of_begins {before text : List Char} (begins : before <+: text) {c : Char}
    (head : c ∈ before.head?) : c ∈ text.head? := by
  obtain ⟨rest, same⟩ := List.head?_eq_some_iff.1 head
  obtain ⟨more, longer⟩ := begins
  rw [← longer, same]
  rfl

theorem of_mem_head?_trimWhere {p : Char → Bool} {text : List Char} {c : Char}
    (head : c ∈ (trimWhere p text).head?) : p c = false := by
  have whole : trimWhere p text <+: text.dropWhile p := by
    rw [trimWhere, ← List.reverse_suffix, List.reverse_reverse]
    exact List.dropWhile_suffix p
  exact of_mem_head?_dropWhile (mem_head?_of_begins whole head)

/-- What has been trimmed is not trimmed by less. -/
theorem trimWhere_trimWhere {p q : Char → Bool} (less : ∀ c, p c = true → q c = true)
    (text : List Char) : trimWhere p (trimWhere q text) = trimWhere q text := by
  have spared : ∀ c, q c = false → p c = false := by
    intro c kept
    by_contra taken
    rw [less c (by simpa using taken)] at kept
    cases kept
  apply trimWhere_of_ends
  · intro c head
    exact spared c (of_mem_head?_trimWhere head)
  · intro c head
    rw [trimWhere, List.reverse_reverse] at head
    exact spared c (of_mem_head?_dropWhile head)

/-- Where nothing is taken from the front, trimming the end is enough. -/
theorem trimWhere_trimEndWhere {p : Char → Bool} {text : List Char}
    (first : ∀ c ∈ text.head?, p c = false) :
    trimWhere p (trimEndWhere p text) = trimEndWhere p text := by
  have whole : trimEndWhere p text <+: text := by
    rw [trimEndWhere, ← List.reverse_suffix, List.reverse_reverse]
    exact List.dropWhile_suffix p
  apply trimWhere_of_ends
  · intro c head
    exact first c (mem_head?_of_begins whole head)
  · intro c head
    rw [trimEndWhere, List.reverse_reverse] at head
    exact of_mem_head?_dropWhile head

theorem trimWhere_append_left {p : Char → Bool} {before : List Char}
    (all : ∀ c ∈ before, p c = true) (text : List Char) :
    trimWhere p (before ++ text) = trimWhere p text := by
  rw [trimWhere, trimWhere, List.dropWhile_append_of_pos all]

theorem trimWhere_append_right {p : Char → Bool} {after : List Char}
    (all : ∀ c ∈ after, p c = true) (text : List Char) :
    trimWhere p (text ++ after) = trimWhere p text := by
  rw [trimWhere, trimWhere, List.dropWhile_append]
  split
  · rename_i none
    have dropped : after.dropWhile p = [] := List.dropWhile_eq_nil_iff.2 all
    rw [dropped, List.isEmpty_iff.1 none]
  · rw [List.reverse_append, List.dropWhile_append_of_pos]
    intro c mem
    exact all c (List.mem_reverse.1 mem)

/-! ### Characters written as others -/

section Write

variable {p : Char → Bool} {write : Char → List Char}
  (alone : ∀ c, p c = true → write c = [c])
  (kept : ∀ c, p c = false → write c ≠ [] ∧ ∀ d ∈ write c, p d = false)

include alone kept

theorem dropWhile_flatMap (text : List Char) :
    (text.flatMap write).dropWhile p = (text.dropWhile p).flatMap write := by
  induction text with
  | nil => rfl
  | cons c text ih =>
    rw [List.flatMap_cons]
    cases drops : p c with
    | true =>
      rw [alone c drops, List.singleton_append, List.dropWhile_cons_of_pos drops, ih,
        List.dropWhile_cons_of_pos drops]
    | false =>
      obtain ⟨some, solid⟩ := kept c drops
      obtain ⟨first, rest, written⟩ := List.exists_cons_of_ne_nil some
      have stays : p first = false := solid first (by simp [written])
      rw [List.dropWhile_cons_of_neg (by simp [drops]), List.flatMap_cons, written,
        List.cons_append, List.dropWhile_cons_of_neg (by simp [stays])]

/-- Trimming does not mind how characters are written that it would not take. -/
theorem trimEndWhere_flatMap (text : List Char) :
    trimEndWhere p (text.flatMap write) = (trimEndWhere p text).flatMap write := by
  have aloneBack : ∀ c, p c = true → (List.reverse ∘ write) c = [c] := by
    intro c drops
    rw [Function.comp_apply, alone c drops, List.reverse_singleton]
  have keptBack : ∀ c, p c = false →
      (List.reverse ∘ write) c ≠ [] ∧ ∀ d ∈ (List.reverse ∘ write) c, p d = false := by
    intro c stays
    obtain ⟨some, solid⟩ := kept c stays
    exact ⟨by simpa using some, fun d mem => solid d (List.mem_reverse.1 mem)⟩
  have twice : List.reverse ∘ (List.reverse ∘ write) = write :=
    funext fun c => List.reverse_reverse (write c)
  rw [trimEndWhere, List.reverse_flatMap, dropWhile_flatMap aloneBack keptBack,
    List.reverse_flatMap, twice]
  rfl

theorem trimWhere_flatMap (text : List Char) :
    trimWhere p (text.flatMap write) = (trimWhere p text).flatMap write := by
  have both (text : List Char) : trimWhere p text = trimEndWhere p (text.dropWhile p) := rfl
  rw [both, both, dropWhile_flatMap alone kept, trimEndWhere_flatMap alone kept]

/-- Cutting does not mind how characters are written that it would not cut at. -/
theorem splitWhere_flatMap (text : List Char) :
    splitWhere p (text.flatMap write) = (splitWhere p text).map (·.flatMap write) := by
  induction text with
  | nil => rfl
  | cons c text ih =>
    obtain ⟨part, parts, cut⟩ := List.exists_cons_of_ne_nil (splitWhere_ne_nil p text)
    rw [List.flatMap_cons, splitWhere]
    cases cuts : p c with
    | true =>
      rw [alone c cuts, if_pos rfl, List.map_cons, ← ih]
      exact splitWhere_append cuts [] _
    | false =>
      have begins := ih.trans (congrArg (List.map (·.flatMap write)) cut)
      rw [splitWhere_append_of_none (kept c cuts).2 begins, cut]
      rfl

end Write

theorem words_ne_nil {text : String} {c : Char} (mem : c ∈ text.toList)
    (solid : isBlank c = false) : words text ≠ [] := by
  intro none
  have lost := flatten_wordsWhere isBlank text.toList
  rw [List.map_eq_nil_iff.1 none, List.flatten_nil] at lost
  have kept : c ∈ text.toList.filter (!isBlank ·) := List.mem_filter.2 ⟨mem, by simp [solid]⟩
  rw [← lost] at kept
  cases kept

theorem words_eq_singleton {text : String} (some : text ≠ "")
    (solid : ∀ c ∈ text.toList, isBlank c = false) : words text = [text] := by
  have full : text.toList ≠ [] := fun none => some (String.toList_eq_nil_iff.1 none)
  rw [words, wordsWhere, splitWhere_of_none solid]
  simp [full]

end JsxPages.Text
