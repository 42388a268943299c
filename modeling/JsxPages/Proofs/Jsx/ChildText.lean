import JsxPages.Document.Convert
import JsxPages.Proofs.Jsx.Text
import JsxPages.Proofs.Text.Collapse
/-!
# Text between tags, read as JSX

JSX cuts the text between two tags into its lines. It takes white space from the front of every line
but the first and from the end of every line but the last, leaves out empty lines and puts one space
between the others. References are read after that, so it makes no difference to the lines how a
text is escaped (`childText_escape`).

No word is lost and no two words are joined (`words_childText`). What is lost is white space in
front of all words if there is a line break in it, and likewise white space behind them
(`opensWith_childText`, `endsWith_childText`).
-/

namespace JsxPages.Jsx

open Script (units)
open Text (splitWhere wordsWhere opensWith endsWith collapse)

/-- What JSX takes for white space, and for the breaks between lines. -/
structure Spacing where
  isBlank : Char → Bool
  isBreak : Char → Bool
  blank_of_isBreak : ∀ c, isBreak c = true → isBlank c = true
  blank_space : isBlank ' ' = true
  /-- Nothing that tags, expressions and references are written with is white space. -/
  solid : ∀ c, inReference c = true ∨ c ∈ ['&', ';', '<', '>', '\x7b', '\x7d'] → isBlank c = false

namespace Spacing

variable (spacing : Spacing)

/-- Lines without white space in front, the first as it is. -/
def trimStarts : List (List Char) → List (List Char)
  | [] => []
  | first :: later => first :: later.map (·.dropWhile spacing.isBlank)

/-- Lines without white space at their ends, the last as it is. -/
def trimEnds (lines : List (List Char)) : List (List Char) :=
  lines.dropLast.map (Text.trimEndWhere spacing.isBlank) ++ lines.getLast?.toList

/-- The lines that are not empty, with spaces between them. -/
def join (lines : List (List Char)) : List Char :=
  [' '].intercalate (lines.filter (!·.isEmpty))

/-- What JSX makes of a text between two tags, before it reads references. -/
def childText (text : List Char) : List Char :=
  join (spacing.trimEnds (spacing.trimStarts (splitWhere spacing.isBreak text)))

/-- Whether there is a line break in the white space in front of a text. -/
def breaksBefore (text : List Char) : Bool :=
  (text.takeWhile spacing.isBlank).any spacing.isBreak

/-- Whether there is a line break in the white space behind a text. -/
def breaksBehind (text : List Char) : Bool :=
  spacing.breaksBefore text.reverse

variable {spacing}

/-! ### Escaped texts -/

theorem isBlank_of_mem_escapeChar {c d : Char} (solid : spacing.isBlank c = false)
    (mem : d ∈ escapeChar c) : spacing.isBlank d = false := by
  cases escape c with
  | plain written free =>
    rw [written, List.mem_singleton] at mem
    rw [mem]
    exact solid
  | reference body written listed inside known =>
    rw [written, List.mem_cons, List.mem_append, List.mem_singleton] at mem
    rcases mem with rfl | isInside | rfl
    · exact spacing.solid _ (.inr (by simp))
    · exact spacing.solid _ (.inl (inside d isInside))
    · exact spacing.solid _ (.inr (by simp))

theorem escapeChar_of_isBlank {c : Char} (blank : spacing.isBlank c = true) :
    escapeChar c = [c] := by
  have notMarkup : c ∉ ['&', ';', '<', '>', '\x7b', '\x7d'] := by
    intro markup
    rw [spacing.solid c (.inr markup)] at blank
    cases blank
  unfold escapeChar
  split
  case h_6 => rfl
  all_goals exact absurd (by decide) notMarkup

theorem escapeChar_ne_nil (c : Char) : escapeChar c ≠ [] := by
  cases escape c with
  | plain written free => simp [written]
  | reference body written listed inside known => simp [written]

section

variable (spacing)

/-- How a character is escaped that is no white space. -/
theorem escapeChar_of_solid (c : Char) (solid : spacing.isBlank c = false) :
    escapeChar c ≠ [] ∧ ∀ d ∈ escapeChar c, spacing.isBlank d = false :=
  ⟨escapeChar_ne_nil c, fun _ mem => isBlank_of_mem_escapeChar solid mem⟩

theorem escapeChar_of_noBreak (c : Char) (goesOn : spacing.isBreak c = false) :
    escapeChar c ≠ [] ∧ ∀ d ∈ escapeChar c, spacing.isBreak d = false := by
  refine ⟨escapeChar_ne_nil c, fun d mem => ?_⟩
  cases blank : spacing.isBlank c with
  | true =>
    rw [escapeChar_of_isBlank blank, List.mem_singleton] at mem
    rw [mem]
    exact goesOn
  | false =>
    have solid := isBlank_of_mem_escapeChar blank mem
    by_contra breaks
    rw [spacing.blank_of_isBreak d (by simpa using breaks)] at solid
    cases solid

theorem trimStarts_escape (lines : List (List Char)) :
    spacing.trimStarts (lines.map (·.flatMap escapeChar)) =
      (spacing.trimStarts lines).map (·.flatMap escapeChar) := by
  cases lines with
  | nil => rfl
  | cons first later =>
    simp only [trimStarts, List.map_cons, List.map_map, Function.comp_def,
      Text.dropWhile_flatMap (fun _ => escapeChar_of_isBlank) (escapeChar_of_solid spacing)]

theorem trimEnds_escape (lines : List (List Char)) :
    spacing.trimEnds (lines.map (·.flatMap escapeChar)) =
      (spacing.trimEnds lines).map (·.flatMap escapeChar) := by
  have last : (lines.getLast?.map (·.flatMap escapeChar)).toList =
      lines.getLast?.toList.map (·.flatMap escapeChar) := by
    cases lines.getLast? <;> rfl
  simp only [trimEnds, ← List.map_dropLast, List.getLast?_map, List.map_map, List.map_append,
    Function.comp_def, last,
    Text.trimEndWhere_flatMap (fun _ => escapeChar_of_isBlank) (escapeChar_of_solid spacing)]

theorem intercalate_escape (lines : List (List Char)) :
    [' '].intercalate (lines.map (·.flatMap escapeChar)) =
      ([' '].intercalate lines).flatMap escapeChar := by
  induction lines with
  | nil => rfl
  | cons line lines ih =>
    cases lines with
    | nil => simp
    | cons next lines =>
      have space : [' '].flatMap escapeChar = [' '] := rfl
      rw [List.map_cons] at ih ⊢
      rw [List.map_cons, List.intercalate_cons_cons, ih, List.intercalate_cons_cons,
        List.flatMap_append, List.flatMap_append, space]

theorem join_escape (lines : List (List Char)) :
    join (lines.map (·.flatMap escapeChar)) = (join lines).flatMap escapeChar := by
  have empty (line : List Char) : (line.flatMap escapeChar).isEmpty = line.isEmpty := by
    cases line with
    | nil => rfl
    | cons c line => simp [escapeChar_ne_nil]
  rw [join, join, ← intercalate_escape, List.filter_map]
  simp only [Function.comp_def, empty]

/-- It makes no difference to the lines of a text how it is escaped. -/
theorem childText_escape (text : List Char) :
    spacing.childText (text.flatMap escapeChar) =
      (spacing.childText text).flatMap escapeChar := by
  have alone (c : Char) (breaks : spacing.isBreak c = true) : escapeChar c = [c] :=
    escapeChar_of_isBlank (spacing.blank_of_isBreak c breaks)
  rw [childText, Text.splitWhere_flatMap alone (escapeChar_of_noBreak spacing), trimStarts_escape,
    trimEnds_escape, join_escape]
  rfl

/-! ### The words -/

theorem trimEnds_concat (front : List (List Char)) (last : List Char) :
    spacing.trimEnds (front ++ [last]) =
      front.map (Text.trimEndWhere spacing.isBlank) ++ [last] := by
  rw [trimEnds, List.dropLast_concat, List.getLast?_concat]
  rfl

theorem words_trimStarts (lines : List (List Char)) :
    (spacing.trimStarts lines).flatMap (wordsWhere spacing.isBlank) =
      lines.flatMap (wordsWhere spacing.isBlank) := by
  cases lines with
  | nil => rfl
  | cons first later =>
    simp only [trimStarts, List.flatMap_cons, List.flatMap_map, Text.wordsWhere_dropWhile]

theorem words_trimEnds (lines : List (List Char)) :
    (spacing.trimEnds lines).flatMap (wordsWhere spacing.isBlank) =
      lines.flatMap (wordsWhere spacing.isBlank) := by
  rcases List.eq_nil_or_concat lines with rfl | ⟨front, last, rfl⟩
  · rfl
  · rw [List.concat_eq_append, trimEnds_concat, List.flatMap_append, List.flatMap_append,
      List.flatMap_map]
    simp only [Text.wordsWhere_trimEndWhere]

theorem words_join (lines : List (List Char)) :
    wordsWhere spacing.isBlank (join lines) = lines.flatMap (wordsWhere spacing.isBlank) := by
  rw [join, Text.wordsWhere_intercalate spacing.blank_space]
  induction lines with
  | nil => rfl
  | cons line lines ih =>
    cases line with
    | nil => exact ih
    | cons c line => simp [ih]

/-- No word is lost, and no two words are joined. -/
theorem words_childText (text : List Char) :
    wordsWhere spacing.isBlank (spacing.childText text) = wordsWhere spacing.isBlank text := by
  rw [childText, words_join, words_trimEnds, words_trimStarts,
    Text.flatMap_wordsWhere spacing.blank_of_isBreak]

/-! ### White space in front and behind -/

theorem trimEnds_cons {lines : List (List Char)} (some : lines ≠ []) (first : List Char) :
    spacing.trimEnds (first :: lines) =
      Text.trimEndWhere spacing.isBlank first :: spacing.trimEnds lines := by
  obtain ⟨front, last, rfl⟩ := (List.eq_nil_or_concat lines).resolve_left some
  rw [List.concat_eq_append, ← List.cons_append, trimEnds_concat, trimEnds_concat]
  rfl

theorem trimStarts_concat {lines : List (List Char)} (some : lines ≠ []) (last : List Char) :
    spacing.trimStarts (lines ++ [last]) =
      spacing.trimStarts lines ++ [last.dropWhile spacing.isBlank] := by
  obtain ⟨first, later, rfl⟩ := List.exists_cons_of_ne_nil some
  simp [trimStarts]

/-- A text without line breaks is as it is. -/
theorem childText_of_free {text : List Char} (free : ∀ c ∈ text, spacing.isBreak c = false) :
    spacing.childText text = text := by
  rw [childText, Text.splitWhere_of_none free]
  cases text with
  | nil => rfl
  | cons c rest => simp [trimStarts, trimEnds, join]

theorem breaksBefore_of_free {text : List Char} (free : ∀ c ∈ text, spacing.isBreak c = false) :
    spacing.breaksBefore text = false := by
  rw [breaksBefore, List.any_eq_false]
  intro c mem
  rw [free c ((List.takeWhile_prefix _).subset mem)]
  simp

/-- The first line break stands in the white space in front if nothing else is before it. -/
theorem breaksBefore_append {first : List Char} {c : Char}
    (free : ∀ d ∈ first, spacing.isBreak d = false) (breaks : spacing.isBreak c = true)
    (rest : List Char) :
    spacing.breaksBefore (first ++ c :: rest) = first.all spacing.isBlank := by
  cases blank : first.all spacing.isBlank with
  | true =>
    rw [breaksBefore, List.takeWhile_append_of_pos (List.all_eq_true.1 blank),
      List.takeWhile_cons_of_pos (spacing.blank_of_isBreak c breaks)]
    simp [breaks]
  | false =>
    have notAll : ¬ (first.takeWhile spacing.isBlank).length = first.length := by
      intro whole
      have same := (List.takeWhile_prefix spacing.isBlank).eq_of_length whole
      rw [List.all_eq_true.2 (List.takeWhile_eq_self_iff.1 same)] at blank
      cases blank
    rw [breaksBefore, List.takeWhile_append, if_neg notAll]
    exact breaksBefore_of_free spacing free

theorem opensWith_join_of_none {lines : List (List Char)}
    (none : ∀ line ∈ lines, opensWith spacing.isBlank line = false) :
    opensWith spacing.isBlank (join lines) = false := by
  rw [join]
  cases kept : lines.filter (!·.isEmpty) with
  | nil => rfl
  | cons line more =>
    have first : line ∈ lines.filter (!·.isEmpty) := by simp [kept]
    obtain ⟨mem, full⟩ := List.mem_filter.1 first
    rw [Text.opensWith_intercalate (by simpa using full)]
    exact none line mem

theorem endsWith_join_of_none {lines : List (List Char)}
    (none : ∀ line ∈ lines, endsWith spacing.isBlank line = false) :
    endsWith spacing.isBlank (join lines) = false := by
  rw [join]
  rcases List.eq_nil_or_concat (lines.filter (!·.isEmpty)) with kept | ⟨more, line, kept⟩
  · rw [kept]
    rfl
  · rw [kept, List.concat_eq_append]
    have last : line ∈ lines.filter (!·.isEmpty) := by simp [kept]
    obtain ⟨mem, full⟩ := List.mem_filter.1 last
    rw [Text.endsWith_intercalate (by simpa using full)]
    exact none line mem

theorem opensWith_of_mem_trimEnds {lines : List (List Char)}
    (none : ∀ line ∈ lines, opensWith spacing.isBlank line = false) :
    ∀ line ∈ spacing.trimEnds lines, opensWith spacing.isBlank line = false := by
  intro line mem
  rcases List.mem_append.1 mem with early | last
  · obtain ⟨whole, isLine, rfl⟩ := List.mem_map.1 early
    by_cases blank : Text.trimEndWhere spacing.isBlank whole = []
    · rw [blank]
      rfl
    · rw [Text.opensWith_trimEndWhere blank]
      exact none whole (List.dropLast_subset _ isLine)
  · exact none line (List.mem_of_getLast? (Option.mem_toList.1 last))

/-- White space in front of the words stays if and only if no line breaks in it. -/
theorem opensWith_childText (text : List Char) :
    opensWith spacing.isBlank (spacing.childText text) =
      (opensWith spacing.isBlank text && !spacing.breaksBefore text) := by
  rcases Text.exists_first spacing.isBreak text with free | ⟨first, c, rest, rfl, free, breaks⟩
  · rw [childText_of_free spacing free, breaksBefore_of_free spacing free]
    simp
  have some : (splitWhere spacing.isBreak rest).map (·.dropWhile spacing.isBlank) ≠ [] := by
    simp [Text.splitWhere_ne_nil]
  rw [childText, Text.splitWhere_first free breaks, trimStarts, trimEnds_cons spacing some,
    breaksBefore_append spacing free breaks]
  by_cases blank : Text.trimEndWhere spacing.isBlank first = []
  · have all := List.all_eq_true.2 (Text.trimEndWhere_eq_nil_iff.1 blank)
    rw [blank, all, Bool.not_true, Bool.and_false]
    -- the first line is left out, and every other line has lost what it began with
    refine opensWith_join_of_none spacing (List.forall_mem_cons.2 ⟨rfl, ?_⟩)
    refine opensWith_of_mem_trimEnds spacing fun line mem => ?_
    obtain ⟨part, _, rfl⟩ := List.mem_map.1 mem
    exact Text.opensWith_dropWhile part
  · have notAll : first.all spacing.isBlank = false := by
      rw [← Bool.not_eq_true]
      exact fun all => blank (Text.trimEndWhere_eq_nil_iff.2 (List.all_eq_true.1 all))
    have someFirst : first ≠ [] := by
      rintro rfl
      cases notAll
    have full : (Text.trimEndWhere spacing.isBlank first).isEmpty = false := by
      simpa using blank
    rw [join, List.filter_cons_of_pos (by simp [full]), Text.opensWith_intercalate blank,
      Text.opensWith_trimEndWhere blank, Text.opensWith_append someFirst, notAll]
    simp

/-- White space behind the words stays if and only if no line breaks in it. -/
theorem endsWith_childText (text : List Char) :
    endsWith spacing.isBlank (spacing.childText text) =
      (endsWith spacing.isBlank text && !spacing.breaksBehind text) := by
  rcases Text.exists_last spacing.isBreak text with free | ⟨front, c, last, rfl, free, breaks⟩
  · have freeBack : ∀ c ∈ text.reverse, spacing.isBreak c = false :=
      fun c mem => free c (List.mem_reverse.1 mem)
    rw [childText_of_free spacing free, breaksBehind, breaksBefore_of_free spacing freeBack]
    simp
  have freeBack : ∀ d ∈ last.reverse, spacing.isBreak d = false :=
    fun d mem => free d (List.mem_reverse.1 mem)
  have behind : spacing.breaksBehind (front ++ c :: last) = last.all spacing.isBlank := by
    rw [breaksBehind, List.reverse_append, List.reverse_cons, List.append_assoc,
      List.singleton_append, breaksBefore_append spacing freeBack breaks, List.all_reverse]
  rw [childText, Text.splitWhere_last free breaks,
    trimStarts_concat spacing (Text.splitWhere_ne_nil _ _), trimEnds_concat, behind]
  by_cases blank : last.dropWhile spacing.isBlank = []
  · have all := List.all_eq_true.2 (List.dropWhile_eq_nil_iff.1 blank)
    rw [blank, all, Bool.not_true, Bool.and_false]
    -- the last line is left out, and every other line has lost what it ended with
    refine endsWith_join_of_none spacing
      (List.forall_mem_append.2 ⟨fun line mem => ?_, List.forall_mem_singleton.2 rfl⟩)
    obtain ⟨part, _, rfl⟩ := List.mem_map.1 mem
    exact Text.endsWith_trimEndWhere part
  · have notAll : last.all spacing.isBlank = false := by
      rw [← Bool.not_eq_true]
      exact fun all => blank (List.dropWhile_eq_nil_iff.2 (List.all_eq_true.1 all))
    have someLast : last ≠ [] := by
      rintro rfl
      cases notAll
    have full : (last.dropWhile spacing.isBlank).isEmpty = false := by
      simpa using blank
    rw [join, List.filter_append, List.filter_cons_of_pos (by simp [full]), List.filter_nil,
      Text.endsWith_intercalate blank, Text.endsWith_dropWhile blank, notAll]
    have split : front ++ c :: last = (front ++ [c]) ++ last := by simp
    rw [split, Text.endsWith_append someLast]
    simp

theorem opensWith_of_breaksBefore (text : List Char) (breaks : spacing.breaksBefore text = true) :
    opensWith spacing.isBlank text = true := by
  cases text with
  | nil => cases breaks
  | cons c rest =>
    cases blank : spacing.isBlank c with
    | true => exact blank
    | false =>
      rw [breaksBefore, List.takeWhile_cons_of_neg (by simp [blank])] at breaks
      cases breaks

theorem endsWith_of_breaksBehind (text : List Char) (breaks : spacing.breaksBehind text = true) :
    endsWith spacing.isBlank text = true := by
  have opens := opensWith_of_breaksBefore spacing text.reverse breaks
  rwa [opensWith, List.head?_reverse] at opens

end

end Spacing

/-! ### Texts of the converter -/

/-- **What JSX reads of a text.** Escaped and read back, a text has the words that it had, in their
order. It begins with white space exactly if it did and no line breaks there, and likewise for its
end. So it is the same text, but for the extent of its runs of white space, if and only if neither
the white space in front of it nor that behind it holds a line break. -/
theorem childText_escapeText (spacing : Spacing) {names : String → Option Char}
    (knows : KnowsText names) (text : String) :
    ∃ value, decode names (spacing.childText (escapeText text).toList) = some (units value) ∧
      wordsWhere spacing.isBlank value = wordsWhere spacing.isBlank text.toList ∧
      opensWith spacing.isBlank value =
        (opensWith spacing.isBlank text.toList && !spacing.breaksBefore text.toList) ∧
      endsWith spacing.isBlank value =
        (endsWith spacing.isBlank text.toList && !spacing.breaksBehind text.toList) ∧
      (collapse spacing.isBlank value = collapse spacing.isBlank text.toList ↔
        spacing.breaksBefore text.toList = false ∧ spacing.breaksBehind text.toList = false) := by
  have words := spacing.words_childText text.toList
  have opens := spacing.opensWith_childText text.toList
  have ends := spacing.endsWith_childText text.toList
  refine ⟨spacing.childText text.toList, ?_, words, opens, ends, ?_⟩
  · have read := decode_escapeText knows (String.ofList (spacing.childText text.toList))
    rw [toList_escapeText, String.toList_ofList] at read
    rw [toList_escapeText, spacing.childText_escape]
    exact read
  · rw [Text.collapse_eq_iff spacing.blank_space words, opens, ends]
    have inFront := spacing.opensWith_of_breaksBefore text.toList
    have inBack := spacing.endsWith_of_breaksBehind text.toList
    cases before : spacing.breaksBefore text.toList with
    | true => simp [inFront before]
    | false =>
      cases behind : spacing.breaksBehind text.toList with
      | true => simp [inBack behind]
      | false => simp

/-- White space and line breaks as the compilers of JSX have them. -/
def Spacing.common : Spacing where
  isBlank c := c == ' ' || c == '\t' || c == '\n' || c == '\r'
  isBreak c := c == '\n' || c == '\r'
  blank_of_isBreak c breaks := by
    rw [Bool.or_assoc, breaks, Bool.or_true]
  blank_space := rfl
  solid c isMarkup := by
    by_contra blank
    simp only [Bool.not_eq_false, Bool.or_eq_true, beq_iff_eq] at blank
    rcases blank with ((rfl | rfl) | rfl) | rfl
    all_goals
      revert isMarkup
      decide

/-- A text that ends in a line break, and one whose only line break stands between its words. -/
theorem childText_escapeText_linesOfWords :
    KnowsText commonNames ∧
      (let text := " one &\n  two\t\n"
       ∃ value, decode commonNames (Spacing.common.childText (escapeText text).toList) =
          some (units value) ∧
        wordsWhere Spacing.common.isBlank value = [['o', 'n', 'e'], ['&'], ['t', 'w', 'o']] ∧
        opensWith Spacing.common.isBlank value = true ∧
        endsWith Spacing.common.isBlank value = false) ∧
      (let text := " one\r\n two "
       ∃ value, decode commonNames (Spacing.common.childText (escapeText text).toList) =
          some (units value) ∧
        collapse Spacing.common.isBlank value = " one two ".toList) := by
  have knows : KnowsText commonNames := ⟨by decide, by decide, by decide⟩
  refine ⟨knows, ?_, ?_⟩
  · obtain ⟨value, read, words, opens, ends, _⟩ :=
      childText_escapeText Spacing.common knows " one &\n  two\t\n"
    exact ⟨value, read, words.trans (by decide +kernel), opens.trans (by decide +kernel),
      ends.trans (by decide +kernel)⟩
  · obtain ⟨value, read, _, _, _, same⟩ :=
      childText_escapeText Spacing.common knows " one\r\n two "
    exact ⟨value, read, (same.2 (by decide +kernel)).trans (by decide +kernel)⟩

/-- Between two elements on lines of their own nothing is left of the line break. -/
theorem childText_betweenElements :
    (Document.convert {} "<b>one</b>\n<i>two</i>").jsx =
        "<><b>one</b>" ++ escapeText "\n" ++ "<i>two</i></>" ∧
      decode commonNames (Spacing.common.childText (escapeText "\n").toList) = some [] ∧
      collapse Spacing.common.isBlank [] ≠ collapse Spacing.common.isBlank "\n".toList := by
  decide +kernel

end JsxPages.Jsx
