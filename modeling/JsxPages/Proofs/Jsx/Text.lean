import JsxPages.Jsx.Text
import JsxPages.Proofs.Jsx.Reference
/-!
# Text and comments, read as JSX

Of the characters that mean something between tags none is written as itself: in the place of each
stands a reference to it (`Escape`). So a text opens no tag, no expression and no reference but
those, which read back as the text.

A comment ends at the first `*/` behind its opening. One that stands in the text is broken, and that
makes no new one, neither with what surrounds it nor with the end of the comment.
-/

namespace JsxPages.Jsx

open Script (units)

/-- The references that a text is written with. -/
def textReferences : List String :=
  ["&amp;", "&lt;", "&gt;", "&#123;", "&#125;"]

/-- The names that they need. -/
structure KnowsText (names : String → Option Char) : Prop where
  ampersand : names "amp" = some '&'
  less : names "lt" = some '<'
  greater : names "gt" = some '>'

/-! ### Text -/

/-- How a character is written: as it is, or as a reference to it. -/
inductive Escape (c : Char) : Prop where
  | plain (written : escapeChar c = [c]) (free : c ∉ ['&', '<', '>', '\x7b', '\x7d'])
  | reference (body : List Char) (written : escapeChar c = '&' :: (body ++ [';']))
      (listed : String.ofList (escapeChar c) ∈ textReferences)
      (inside : ∀ d ∈ body, inReference d = true)
      (known : ∀ {names}, KnowsText names → reference? names body = some c.toNat)

theorem escape (c : Char) : Escape c := by
  by_cases markup : c ∈ ['&', '<', '>', '\x7b', '\x7d']
  · simp only [List.mem_cons, List.not_mem_nil, or_false] at markup
    rcases markup with rfl | rfl | rfl | rfl | rfl
    · exact .reference ['a', 'm', 'p'] (by decide) (by decide) (List.all_eq_true.1 (by decide))
        fun knows => by simp [reference?, inReference, knows.ampersand]
    · exact .reference ['l', 't'] (by decide) (by decide) (List.all_eq_true.1 (by decide))
        fun knows => by simp [reference?, inReference, knows.less]
    · exact .reference ['g', 't'] (by decide) (by decide) (List.all_eq_true.1 (by decide))
        fun knows => by simp [reference?, inReference, knows.greater]
    · exact .reference ['#', '1', '2', '3'] (by decide) (by decide)
        (List.all_eq_true.1 (by decide)) fun _ => rfl
    · exact .reference ['#', '1', '2', '5'] (by decide) (by decide)
        (List.all_eq_true.1 (by decide)) fun _ => rfl
  · refine .plain ?_ markup
    unfold escapeChar
    split
    case h_6 => rfl
    all_goals exact absurd (by decide) markup

theorem toList_escapeText (text : String) :
    (escapeText text).toList = text.toList.flatMap escapeChar := by
  rw [escapeText, String.toList_ofList]

theorem escapeText_append (first second : String) :
    escapeText (first ++ second) = escapeText first ++ escapeText second := by
  apply String.toList_injective
  rw [toList_escapeText, String.toList_append, List.flatMap_append, String.toList_append,
    toList_escapeText, toList_escapeText]

/-- No character of a written text begins or ends a tag or an expression. -/
theorem notMem_of_mem_escapeText {text : String} {c : Char} (mem : c ∈ (escapeText text).toList) :
    c ∉ ['<', '>', '\x7b', '\x7d'] := by
  rw [toList_escapeText] at mem
  obtain ⟨d, _, part⟩ := List.mem_flatMap.1 mem
  cases escape d with
  | plain written free =>
    rw [written, List.mem_singleton] at part
    rw [part]
    exact fun markup => free (List.mem_cons_of_mem _ markup)
  | reference body written listed inside known =>
    have others : ∀ e ∈ ['<', '>', '\x7b', '\x7d'],
        e ≠ '&' ∧ e ≠ ';' ∧ inReference e = false := by simp [inReference]
    intro markup
    obtain ⟨notStart, notEnd, notInside⟩ := others c markup
    rw [written, List.mem_cons, List.mem_append, List.mem_singleton] at part
    rcases part with start | isInside | ending
    · exact notStart start
    · rw [inside c isInside] at notInside
      cases notInside
    · exact notEnd ending

theorem suffix_of_notMem {c : Char} {free after text : List Char} (notMem : c ∉ free)
    (suffix : (c :: after) <:+ free ++ text) : (c :: after) <:+ text := by
  induction free with
  | nil => exact suffix
  | cons d free ih =>
    obtain ⟨other, others⟩ := not_or.1 (notMem ∘ List.mem_cons.2)
    rcases List.suffix_cons_iff.1 suffix with whole | later
    · exact absurd (List.cons.inj whole).1 other
    · exact ih others later

/-- An ampersand in a written text begins one of its references. -/
theorem exists_reference_prefix {text after : List Char}
    (suffix : ('&' :: after) <:+ text.flatMap escapeChar) :
    ∃ reference ∈ textReferences, reference.toList <+: '&' :: after := by
  induction text with
  | nil => simp at suffix
  | cons c text ih =>
    rw [List.flatMap_cons] at suffix
    cases escape c with
    | plain written free =>
      rw [written] at suffix
      refine ih (suffix_of_notMem ?_ suffix)
      rw [List.mem_singleton]
      rintro rfl
      exact free List.mem_cons_self
    | reference body written listed inside known =>
      rw [written] at suffix
      rcases List.suffix_cons_iff.1 suffix with whole | later
      · refine ⟨_, listed, text.flatMap escapeChar, ?_⟩
        rw [String.toList_ofList, whole, written]
        rfl
      · have free : '&' ∉ body ++ [';'] := by
          intro mem
          rcases List.mem_append.1 mem with isInside | ending
          · cases inside _ isInside
          · cases List.mem_singleton.1 ending
        exact ih (suffix_of_notMem free later)

/-- A written text reads back as the text. -/
theorem decode_escapeText {names : String → Option Char} (knows : KnowsText names) (text : String) :
    decode names (escapeText text).toList = some (units text.toList) := by
  rw [toList_escapeText]
  induction text.toList with
  | nil => rw [List.flatMap_nil, decode, Script.units_nil]
  | cons c text ih =>
    rw [List.flatMap_cons, Script.units_cons]
    cases escape c with
    | plain written free =>
      have none : readReference names (c :: text.flatMap escapeChar) = none := by
        refine Option.eq_none_iff_forall_ne_some.2 ?_
        rintro ⟨point, after⟩ read
        obtain ⟨_, whole, _⟩ := readReference_eq_some.1 read
        refine free ?_
        rw [(List.cons.inj whole).1]
        exact List.mem_cons_self
      rw [written, List.singleton_append, decode_cons none, ih, Option.map_some]
    | reference body written listed inside known =>
      have read := readReference_eq_some.2
        ⟨body, (rfl : _ = '&' :: (body ++ ';' :: text.flatMap escapeChar)), known knows⟩
      rw [written, List.cons_append, List.append_assoc, List.singleton_append,
        decode_of_readReference read, Script.pointUnits?_toNat, Option.bind_some, ih,
        Option.map_some]

/-! ### Comments -/

theorem head?_breakCommentEnds (text : List Char) :
    (Text.breakCommentEnds text).head? = text.head? := by
  unfold Text.breakCommentEnds
  split <;> rfl

/-- In front of the end of a comment no comment ends. -/
theorem prefix_of_commentEnd {text rest before after : List Char}
    (ends : Text.breakCommentEnds text ++ '*' :: '/' :: rest = before ++ '*' :: '/' :: after) :
    Text.breakCommentEnds text <+: before := by
  fun_induction Text.breakCommentEnds text generalizing before with
  | case1 text ih =>
    -- of the three characters in the place of an end none begins one
    rcases before with _ | ⟨first, _ | ⟨second, _ | ⟨third, before⟩⟩⟩
    · simp at ends
    · simp at ends
    · simp at ends
    · simp only [List.cons_append, List.cons.injEq] at ends
      obtain ⟨rfl, rfl, rfl, later⟩ := ends
      simpa using ih later
  | case2 c text notEnd ih =>
    rcases before with _ | ⟨first, before⟩
    · simp only [List.cons_append, List.nil_append, List.cons.injEq] at ends
      obtain ⟨star, behind⟩ := ends
      cases text with
      | nil => simp [Text.breakCommentEnds] at behind
      | cons d text =>
        have slash := congrArg List.head? behind
        rw [List.head?_append, head?_breakCommentEnds] at slash
        exact (notEnd text star (by rw [Option.some.inj slash])).elim
    · simp only [List.cons_append, List.cons.injEq] at ends
      obtain ⟨rfl, later⟩ := ends
      simpa using ih later
  | case3 => exact List.nil_prefix

/-- The end of a comment is the first. -/
theorem eq_of_commentEnd {content before after : List Char}
    (ends : Text.breakCommentEnds content ++ "*/\x7d".toList = before ++ '*' :: '/' :: after) :
    before = Text.breakCommentEnds content := by
  obtain ⟨more, rfl⟩ := prefix_of_commentEnd ends
  rw [List.append_assoc] at ends
  have behind : '*' :: '/' :: ['\x7d'] = more ++ '*' :: '/' :: after := List.append_cancel_left ends
  rcases more with _ | ⟨first, _ | ⟨second, more⟩⟩
  · exact List.append_nil _
  · simp at behind
  · have lengths := congrArg List.length behind
    simp at lengths
    omega

end JsxPages.Jsx
