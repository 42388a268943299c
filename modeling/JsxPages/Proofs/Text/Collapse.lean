import JsxPages.Proofs.Text.Words
/-!
# Runs of white space

Collapsing a text leaves one space of each run of white space. What comes of it is told by the words
of the text, by whether white space stands in front of them and by whether some stands behind them
(`collapse_eq`). So two texts with the same words collapse to the same text if and only if they
begin and end alike (`collapse_eq_iff`).
-/

namespace JsxPages.Text

/-- Whether a text begins with a character that satisfies `p`. -/
def opensWith (p : Char → Bool) (text : List Char) : Bool :=
  text.head?.any p

/-- Whether a text ends with a character that satisfies `p`. -/
def endsWith (p : Char → Bool) (text : List Char) : Bool :=
  text.getLast?.any p

/-- A text with one space in the place of each run of white space. -/
def collapse (p : Char → Bool) : List Char → List Char
  | [] => []
  | c :: rest =>
    if p c then
      if opensWith p rest then collapse p rest else ' ' :: collapse p rest
    else
      c :: collapse p rest

variable {p : Char → Bool}

/-! ### Words -/

theorem wordsWhere_append {c : Char} (separates : p c = true) (before after : List Char) :
    wordsWhere p (before ++ c :: after) = wordsWhere p before ++ wordsWhere p after := by
  rw [wordsWhere, splitWhere_append separates, List.filter_append]
  rfl

theorem wordsWhere_cons {c : Char} (separates : p c = true) (rest : List Char) :
    wordsWhere p (c :: rest) = wordsWhere p rest :=
  wordsWhere_append separates [] rest

theorem wordsWhere_append_left {before : List Char} (all : ∀ c ∈ before, p c = true)
    (text : List Char) : wordsWhere p (before ++ text) = wordsWhere p text := by
  induction before with
  | nil => rfl
  | cons c before ih =>
    obtain ⟨first, others⟩ := List.forall_mem_cons.1 all
    rw [List.cons_append, wordsWhere_cons first, ih others]

theorem wordsWhere_append_right {after : List Char} (all : ∀ c ∈ after, p c = true)
    (text : List Char) : wordsWhere p (text ++ after) = wordsWhere p text := by
  cases after with
  | nil => rw [List.append_nil]
  | cons c after =>
    obtain ⟨first, others⟩ := List.forall_mem_cons.1 all
    have none := wordsWhere_append_left others []
    rw [List.append_nil] at none
    rw [wordsWhere_append first, none]
    exact List.append_nil _

theorem wordsWhere_dropWhile (text : List Char) :
    wordsWhere p (text.dropWhile p) = wordsWhere p text := by
  have taken : ∀ c ∈ text.takeWhile p, p c = true := fun _ mem => List.mem_takeWhile_imp mem
  have same := wordsWhere_append_left taken (text.dropWhile p)
  rw [List.takeWhile_append_dropWhile] at same
  exact same.symm

theorem exists_trimEndWhere (p : Char → Bool) (text : List Char) :
    ∃ after, text = trimEndWhere p text ++ after ∧ ∀ c ∈ after, p c = true := by
  refine ⟨(text.reverse.takeWhile p).reverse, ?_,
    fun c mem => List.mem_takeWhile_imp (List.mem_reverse.1 mem)⟩
  rw [trimEndWhere, ← List.reverse_append, List.takeWhile_append_dropWhile, List.reverse_reverse]

theorem wordsWhere_trimEndWhere (text : List Char) :
    wordsWhere p (trimEndWhere p text) = wordsWhere p text := by
  obtain ⟨after, whole, all⟩ := exists_trimEndWhere p text
  have same := wordsWhere_append_right all (trimEndWhere p text)
  rw [← whole] at same
  exact same.symm

/-- Between the words of a text no more is cut where it is cut at white space only. -/
theorem flatMap_splitWhere {q : Char → Bool} (less : ∀ c, q c = true → p c = true)
    (text : List Char) : (splitWhere q text).flatMap (splitWhere p) = splitWhere p text := by
  induction text with
  | nil => rfl
  | cons c rest ih =>
    obtain ⟨part, parts, cut⟩ := List.exists_cons_of_ne_nil (splitWhere_ne_nil q rest)
    rw [splitWhere, splitWhere, ← ih, cut]
    cases cuts : q c with
    | true => simp [less c cuts, splitWhere]
    | false =>
      cases separates : p c with
      | true => simp [consFirst, splitWhere, separates]
      | false =>
        obtain ⟨word, words, begins⟩ := List.exists_cons_of_ne_nil (splitWhere_ne_nil p part)
        simp [consFirst, splitWhere, separates, begins]

theorem flatMap_wordsWhere {q : Char → Bool} (less : ∀ c, q c = true → p c = true)
    (text : List Char) : (splitWhere q text).flatMap (wordsWhere p) = wordsWhere p text := by
  rw [wordsWhere, ← flatMap_splitWhere less, List.filter_flatMap]
  rfl

theorem wordsWhere_eq_nil_iff {text : List Char} :
    wordsWhere p text = [] ↔ ∀ c ∈ text, p c = true := by
  constructor
  · intro none c mem
    by_contra solid
    have lost := flatten_wordsWhere p text
    rw [none, List.flatten_nil] at lost
    have kept : c ∈ text.filter (!p ·) := List.mem_filter.2 ⟨mem, by simpa using solid⟩
    rw [← lost] at kept
    cases kept
  · intro all
    have none := wordsWhere_append_left all []
    rwa [List.append_nil] at none

/-- A word of one character, if no other one stands behind it. -/
theorem wordsWhere_singleton {c : Char} (solid : p c = false) : wordsWhere p [c] = [[c]] := by
  rw [wordsWhere, splitWhere_of_none (by simpa using solid)]
  rfl

theorem wordsWhere_cons_cons_of_separates {c d : Char} (solid : p c = false)
    (separates : p d = true) (rest : List Char) :
    wordsWhere p (c :: d :: rest) = [c] :: wordsWhere p (d :: rest) := by
  have cut := wordsWhere_append separates [c] rest
  rw [wordsWhere_singleton solid] at cut
  rw [wordsWhere_cons separates]
  exact cut

/-- A character in front of a word is a part of it. -/
theorem wordsWhere_cons_cons {c d : Char} (solid : p c = false) (joins : p d = false)
    (rest : List Char) :
    wordsWhere p (c :: d :: rest) = consFirst c (wordsWhere p (d :: rest)) := by
  obtain ⟨word, words, begins⟩ := List.exists_cons_of_ne_nil (splitWhere_ne_nil p rest)
  simp [wordsWhere, splitWhere, solid, joins, begins, consFirst]

/-! ### Collapsing -/

/-- A space, if there is to be one. -/
def margin (isThere : Bool) : List Char :=
  if isThere then [' '] else []

theorem intercalate_consFirst {c : Char} {words : List (List Char)} (some : words ≠ []) :
    [' '].intercalate (consFirst c words) = c :: [' '].intercalate words := by
  obtain ⟨word, words, rfl⟩ := List.exists_cons_of_ne_nil some
  cases words with
  | nil => rfl
  | cons next words =>
    rw [consFirst, List.intercalate_cons_cons, List.intercalate_cons_cons]
    rfl

theorem endsWith_of_all {text : List Char} (some : text ≠ []) (all : ∀ c ∈ text, p c = true) :
    endsWith p text = true := by
  rw [endsWith, List.getLast?_eq_some_getLast some]
  exact all _ (List.getLast_mem some)

theorem collapse_eq (p : Char → Bool) (text : List Char) :
    collapse p text = margin (opensWith p text) ++ [' '].intercalate (wordsWhere p text) ++
      margin (endsWith p text && !(wordsWhere p text).isEmpty) := by
  induction text with
  | nil => rfl
  | cons c rest ih =>
    cases rest with
    | nil =>
      have none : wordsWhere p [] = [] := rfl
      cases solid : p c with
      | true => simp [collapse, opensWith, solid, wordsWhere_cons solid, none, margin]
      | false => simp [collapse, opensWith, endsWith, solid, wordsWhere_singleton solid, margin]
    | cons d rest =>
      have ends : endsWith p (c :: d :: rest) = endsWith p (d :: rest) := by
        simp [endsWith]
      have opens (e : Char) (more : List Char) : opensWith p (e :: more) = p e := by
        simp [opensWith]
      rw [opens] at ih
      rw [collapse, opens, opens, ends]
      cases solid : p c with
      | true =>
        rw [wordsWhere_cons solid, if_pos rfl, ih]
        cases joins : p d <;> rfl
      | false =>
        rw [if_neg (by simp), ih]
        cases joins : p d with
        | true =>
          rw [wordsWhere_cons_cons_of_separates solid joins]
          cases none : wordsWhere p (d :: rest) with
          | nil =>
            rw [endsWith_of_all (List.cons_ne_nil d rest) (wordsWhere_eq_nil_iff.1 none)]
            rfl
          | cons word more => simp [margin, List.intercalate_cons_cons]
        | false =>
          have some : wordsWhere p (d :: rest) ≠ [] := by
            intro none
            have blank := wordsWhere_eq_nil_iff.1 none d List.mem_cons_self
            rw [joins] at blank
            cases blank
          have full : (consFirst c (wordsWhere p (d :: rest))).isEmpty = false := by
            obtain ⟨word, words, begins⟩ := List.exists_cons_of_ne_nil some
            rw [begins]
            rfl
          rw [wordsWhere_cons_cons solid joins, intercalate_consFirst some, full]
          simp [margin, some]

theorem opensWith_collapse (space : p ' ' = true) (text : List Char) :
    opensWith p (collapse p text) = opensWith p text := by
  induction text with
  | nil => rfl
  | cons c rest ih =>
    rw [collapse]
    cases solid : p c with
    | true =>
      rw [if_pos rfl]
      split
      · rename_i opens
        rw [ih, opens]
        exact solid.symm
      · exact space.trans solid.symm
    | false => rfl

theorem collapse_ne_nil (c : Char) (rest : List Char) : collapse p (c :: rest) ≠ [] := by
  induction rest generalizing c with
  | nil =>
    rw [collapse]
    split <;> simp [opensWith]
  | cons d rest ih =>
    rw [collapse]
    split
    · split
      · exact ih d
      · simp
    · simp

theorem endsWith_append {text : List Char} (some : text ≠ []) (before : List Char) :
    endsWith p (before ++ text) = endsWith p text := by
  rw [endsWith, endsWith, List.getLast?_append, List.getLast?_eq_some_getLast some, Option.some_or]

theorem endsWith_collapse (space : p ' ' = true) (text : List Char) :
    endsWith p (collapse p text) = endsWith p text := by
  induction text with
  | nil => rfl
  | cons c rest ih =>
    cases rest with
    | nil => cases solid : p c <;> simp [collapse, opensWith, endsWith, solid, space]
    | cons d rest =>
      have some : collapse p (d :: rest) ≠ [] := collapse_ne_nil d rest
      have begins : ∃ before, collapse p (c :: d :: rest) = before ++ collapse p (d :: rest) := by
        rw [collapse]
        split
        · split
          · exact ⟨[], rfl⟩
          · exact ⟨[' '], rfl⟩
        · exact ⟨[c], rfl⟩
      obtain ⟨before, whole⟩ := begins
      rw [whole, endsWith_append some, ih]
      exact (endsWith_append (List.cons_ne_nil d rest) [c]).symm

/-- Texts of the same words collapse to the same text if and only if they begin and end alike. -/
theorem collapse_eq_iff (space : p ' ' = true) {text other : List Char}
    (words : wordsWhere p text = wordsWhere p other) :
    collapse p text = collapse p other ↔
      opensWith p text = opensWith p other ∧ endsWith p text = endsWith p other := by
  constructor
  · intro same
    rw [← opensWith_collapse space text, ← endsWith_collapse space text, same,
      opensWith_collapse space, endsWith_collapse space]
    exact ⟨rfl, rfl⟩
  · rintro ⟨opens, ends⟩
    rw [collapse_eq, collapse_eq, words, opens, ends]

/-! ### Texts put together with spaces -/

theorem wordsWhere_intercalate (space : p ' ' = true) (parts : List (List Char)) :
    wordsWhere p ([' '].intercalate parts) = parts.flatMap (wordsWhere p) := by
  induction parts with
  | nil => rfl
  | cons part parts ih =>
    cases parts with
    | nil => simp
    | cons next parts =>
      rw [List.intercalate_cons_cons, List.append_assoc, List.singleton_append,
        wordsWhere_append space, ih]
      rfl

theorem opensWith_append {text : List Char} (some : text ≠ []) (behind : List Char) :
    opensWith p (text ++ behind) = opensWith p text := by
  obtain ⟨c, rest, rfl⟩ := List.exists_cons_of_ne_nil some
  rfl

theorem opensWith_intercalate {part : List Char} (some : part ≠ []) (parts : List (List Char)) :
    opensWith p ([' '].intercalate (part :: parts)) = opensWith p part := by
  cases parts with
  | nil => rw [List.intercalate_singleton]
  | cons next parts =>
    rw [List.intercalate_cons_cons, List.append_assoc, opensWith_append some]

theorem endsWith_intercalate {part : List Char} (some : part ≠ []) (parts : List (List Char)) :
    endsWith p ([' '].intercalate (parts ++ [part])) = endsWith p part := by
  have begins : ∃ before, [' '].intercalate (parts ++ [part]) = before ++ part := by
    induction parts with
    | nil => exact ⟨[], List.intercalate_singleton⟩
    | cons first parts ih =>
      obtain ⟨before, whole⟩ := ih
      obtain ⟨next, more, same⟩ := List.exists_cons_of_ne_nil (l := parts ++ [part]) (by simp)
      refine ⟨first ++ [' '] ++ before, ?_⟩
      rw [List.cons_append, same, List.intercalate_cons_cons, ← same, whole, List.append_assoc,
        List.append_assoc, List.append_assoc]
  obtain ⟨before, whole⟩ := begins
  rw [whole, endsWith_append some]

/-! ### Trimmed texts -/

theorem opensWith_dropWhile (text : List Char) : opensWith p (text.dropWhile p) = false := by
  rw [opensWith]
  cases head : (text.dropWhile p).head? with
  | none => rfl
  | some c => exact of_mem_head?_dropWhile head

theorem endsWith_trimEndWhere (text : List Char) : endsWith p (trimEndWhere p text) = false := by
  rw [endsWith, trimEndWhere, List.getLast?_reverse]
  exact opensWith_dropWhile text.reverse

theorem trimEndWhere_eq_nil_iff {text : List Char} :
    trimEndWhere p text = [] ↔ ∀ c ∈ text, p c = true := by
  rw [trimEndWhere, List.reverse_eq_nil_iff, List.dropWhile_eq_nil_iff]
  simp only [List.mem_reverse]

theorem opensWith_trimEndWhere {text : List Char} (some : trimEndWhere p text ≠ []) :
    opensWith p (trimEndWhere p text) = opensWith p text := by
  obtain ⟨after, whole, _⟩ := exists_trimEndWhere p text
  have same := opensWith_append (p := p) some after
  rw [← whole] at same
  exact same.symm

theorem endsWith_dropWhile {text : List Char} (some : text.dropWhile p ≠ []) :
    endsWith p (text.dropWhile p) = endsWith p text := by
  have same := endsWith_append (p := p) some (text.takeWhile p)
  rw [List.takeWhile_append_dropWhile] at same
  exact same.symm

end JsxPages.Text
