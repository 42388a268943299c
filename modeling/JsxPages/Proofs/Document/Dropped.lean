import JsxPages.Proofs.Document.Edit
/-!
# Dropped content leaves no trace

From a start tag that drops its element up to the end of that element a pass is, but for dropped
frames on top of the stack, the state that the tag was read in; and the state in which the element
ends is that state again. No token in between can write, report, touch the tables or the body, or
close anything outside, whatever its name is.

A dropped element ends with an end tag, with the document, or, if it is a head, in front of a tag or a
text that cannot stand there. In the last case the token goes on as if the head had never been, so
`visited` lists the state between the end of the head and the token as well.
-/

namespace JsxPages.Document.Pass

/-- The states that a pass goes through: where it begins, where a token acts, behind each token. -/
def visited (setting : Setting) (pass : Pass) : List Html.Token → List Pass
  | [] => [pass]
  | token :: tokens =>
    pass :: pass.settle token :: visited setting (pass.step setting token) tokens

/-- A pass like another, but inside dropped content that begins with a frame. -/
def Inside (outer : Pass) (frame : Frame) (pass : Pass) : Prop :=
  ∃ inner : List Frame, (∀ dropped ∈ inner, dropped.isDiscarded = true) ∧
    pass = { outer with stack := inner ++ frame :: outer.stack }

variable {setting : Setting} {outer pass : Pass} {name : String}

theorem discarding_eq_false_iff :
    pass.discarding = false ↔ ∀ frame ∈ pass.stack.head?, frame.isDiscarded = false := by
  cases top : pass.stack.head? <;> simp [discarding, top]

theorem Inside.discarding (inside : Inside outer (.discarded name) pass) :
    pass.discarding = true := by
  obtain ⟨inner, dropped, rfl⟩ := inside
  cases inner with
  | nil => rfl
  | cons frame inner => simpa [Pass.discarding] using dropped frame List.mem_cons_self

/-- Inside, a stack is dropped content that ends with the frame, and the outer stack below. -/
theorem Inside.exists_dropped (inside : Inside outer (.discarded name) pass) :
    ∃ inner : List Frame,
      (∀ frame ∈ inner ++ [.discarded name], frame.isDiscarded = true) ∧
      pass = { outer with stack := inner ++ [.discarded name] ++ outer.stack } := by
  obtain ⟨inner, dropped, rfl⟩ := inside
  refine ⟨inner, ?_, by rw [List.append_cons]⟩
  intro frame mem
  rcases List.mem_append.1 mem with above | last
  · exact dropped frame above
  · obtain rfl := List.mem_singleton.1 last
    rfl

theorem Inside.suffix {frame : Frame} (inside : Inside outer frame pass) :
    (frame :: outer.stack) <:+ pass.stack := by
  obtain ⟨inner, _, rfl⟩ := inside
  exact ⟨inner, rfl⟩

theorem not_cons_suffix (frame : Frame) (stack : List Frame) : ¬ (frame :: stack) <:+ stack := by
  intro suffix
  have longer := suffix.length_le
  rw [List.length_cons] at longer
  omega

/-- With the frame on the stack a pass is not the outer one. -/
theorem inside_of_suffix {frame : Frame} (entered : Inside outer frame pass ∨ pass = outer)
    (held : (frame :: outer.stack) <:+ pass.stack) : Inside outer frame pass := by
  refine entered.resolve_right ?_
  rintro rfl
  exact not_cons_suffix frame pass.stack held

/-! ### Start tags, text and comments inside -/

theorem Inside.settle (inside : Inside outer (.discarded name) pass) (token : Html.Token) :
    Inside outer (.discarded name) (pass.settle token) ∨ pass.settle token = outer := by
  rcases pass.settle_cases token with same | ⟨rest, top, left⟩
  · rw [same]
    exact .inl inside
  obtain ⟨inner, dropped, rfl⟩ := inside
  rw [left]
  rcases inner with _ | ⟨frame, inner⟩
  · obtain rfl := (List.cons.inj top).2
    exact .inr rfl
  · obtain rfl := (List.cons.inj top).2
    exact .inl ⟨inner, (List.forall_mem_cons.1 dropped).2, rfl⟩

theorem Inside.push (inside : Inside outer (.discarded name) pass) (other : String) :
    Inside outer (.discarded name) (pass.push (.discarded other)) := by
  obtain ⟨inner, dropped, rfl⟩ := inside
  exact ⟨.discarded other :: inner, List.forall_mem_cons.2 ⟨rfl, dropped⟩, rfl⟩

/-! ### End tags inside -/

/-- An end tag that matches dropped content closes dropped frames and nothing else. -/
theorem closeThrough_dropped {name : String} {dropped : List Frame} (stack : List Frame)
    (pass : Pass) (all : ∀ frame ∈ dropped, frame.isDiscarded = true)
    (found : dropped.any (·.closedBy name) = true) :
    ∃ kept, kept <:+ dropped ∧
      closeThrough name (dropped ++ stack) pass = { pass with stack := kept ++ stack } := by
  induction dropped with
  | nil => simp at found
  | cons frame dropped ih =>
    have isDropped := all frame List.mem_cons_self
    cases frame with
    | discarded other =>
      simp only [List.cons_append, closeThrough]
      split
      · exact ⟨dropped, List.suffix_cons _ _, rfl⟩
      · rename_i unmatched
        obtain ⟨kept, suffix, closed⟩ := ih (fun frame mem => all frame (List.mem_cons_of_mem _ mem))
          (by simpa [unmatched] using found)
        exact ⟨kept, suffix.trans (List.suffix_cons _ _), closed⟩
    | element | body | document => cases isDropped

theorem takeWhile_dropped {dropped : List Frame} (outside : outer.discarding = false)
    (all : ∀ frame ∈ dropped, frame.isDiscarded = true) :
    (dropped ++ outer.stack).takeWhile Frame.isDiscarded = dropped := by
  rw [List.takeWhile_append_of_pos all]
  rw [discarding_eq_false_iff] at outside
  cases top : outer.stack with
  | nil => simp
  | cons frame rest =>
    have notDropped := outside frame (by simp [top])
    simp [notDropped]

theorem Inside.closeTag (inside : Inside outer (.discarded name) pass)
    (outside : outer.discarding = false) (written : String) :
    Inside outer (.discarded name) (pass.closeTag written) ∨ pass.closeTag written = outer := by
  have discarding := inside.discarding
  have same := inside
  obtain ⟨inner, all, rfl⟩ := inside.exists_dropped
  simp only [Pass.closeTag, candidates, discarding, if_true]
  split
  · exact .inl same
  split
  · rename_i found
    rw [takeWhile_dropped outside all] at found
    obtain ⟨kept, suffix, closed⟩ := closeThrough_dropped outer.stack outer all found
    rw [closeThrough_stack, closed]
    -- with the frame itself closed the outer stack is left
    rcases List.suffix_concat_iff.1 suffix with rfl | ⟨rest, rfl, shorter⟩
    · exact .inr rfl
    · have dropped : ∀ frame ∈ rest, frame.isDiscarded = true := fun frame mem =>
        all frame (List.mem_append_left _ (shorter.subset mem))
      exact .inl ⟨rest, dropped, by simp⟩
  · exact .inl same

/-! ### Steps and runs inside -/

theorem Inside.act (inside : Inside outer (.discarded name) pass)
    (outside : outer.discarding = false) (token : Html.Token) :
    Inside outer (.discarded name) (pass.act setting token) ∨ pass.act setting token = outer := by
  have discarding := inside.discarding
  cases token with
  | startTag tag =>
    simp only [Pass.act, enter, discarding, if_true]
    split
    · exact .inl inside
    · exact .inl (inside.push _)
  | endTag written => exact inside.closeTag outside written
  | text piece =>
    simp only [Pass.act, discarding, if_true]
    exact .inl inside
  | comment text =>
    simp only [Pass.act, comment, discarding, Bool.true_or, if_true]
    exact .inl inside

/-- Every state up to the first without the frame is inside or the outer state itself. -/
theorem inside_or_eq_of_visited (outside : outer.discarding = false) {tokens : List Html.Token}
    {before after : List Pass} {state : Pass}
    (entered : Inside outer (.discarded name) pass ∨ pass = outer)
    (visits : visited setting pass tokens = before ++ state :: after)
    (held : ∀ earlier ∈ before, (.discarded name :: outer.stack) <:+ earlier.stack) :
    Inside outer (.discarded name) state ∨ state = outer := by
  induction tokens generalizing pass before with
  | nil =>
    rcases before with _ | ⟨first, before⟩
    · obtain rfl := (List.cons.inj visits).1
      exact entered
    · simp [visited] at visits
  | cons token tokens ih =>
    rcases before with _ | ⟨first, before⟩
    · obtain rfl := (List.cons.inj visits).1
      exact entered
    obtain ⟨rfl, acting⟩ := List.cons.inj visits
    have inside := inside_of_suffix entered (held _ List.mem_cons_self)
    rcases before with _ | ⟨second, before⟩
    · obtain rfl := (List.cons.inj acting).1
      exact inside.settle token
    obtain ⟨rfl, behind⟩ := List.cons.inj acting
    have settled := inside_of_suffix (inside.settle token) (held _ (by simp))
    refine ih ?_ behind fun earlier mem => held earlier (by simp [mem])
    rw [step_eq]
    exact settled.act outside token

/-! ### The end of the document inside -/

theorem closeAll_dropped {dropped : List Frame} (stack : List Frame) (pass : Pass)
    (all : ∀ frame ∈ dropped, frame.isDiscarded = true) :
    closeAll (dropped ++ stack) pass = closeAll stack pass := by
  induction dropped with
  | nil => rfl
  | cons frame dropped ih =>
    have isDropped := all frame List.mem_cons_self
    cases frame with
    | discarded other => exact ih fun frame mem => all frame (List.mem_cons_of_mem _ mem)
    | element | body | document => cases isDropped

theorem Inside.finish (inside : Inside outer (.discarded name) pass) :
    pass.finish setting = outer.finish setting := by
  obtain ⟨inner, all, rfl⟩ := inside.exists_dropped
  have same := closeAll_dropped outer.stack outer all
  simp only [Pass.finish, closed, closeAll_stack, same]

/-! ### Start tags that drop their element -/

theorem dropped_names :
    ∀ name ∈ discardedElements, name ≠ "html" ∧ Name.isVoid name = false := by decide

/-- A start tag that drops its element does so wherever it stands. -/
theorem act_dropped (setting : Setting) (pass : Pass) {tag : Html.Tag}
    (dropped : Name.canonical tag.name ∈ discardedElements) (opens : tag.selfClosing = false) :
    pass.act setting (.startTag tag) = pass.push (.discarded (Name.canonical tag.name)) := by
  obtain ⟨notHtml, notVoid⟩ := dropped_names _ dropped
  simp only [Pass.act, enter, closesItself, notVoid, opens, Bool.false_and, Bool.or_false, notHtml,
    dropped, if_true, Bool.false_eq_true, if_false, ite_self]

/-- Outside dropped content no other start tag begins such content. -/
theorem dropped_of_stack_act {tag : Html.Tag} (outside : outer.discarding = false)
    (drops : (outer.act setting (.startTag tag)).stack = .discarded name :: outer.stack) :
    Name.canonical tag.name ∈ discardedElements ∧ tag.selfClosing = false := by
  simp only [Pass.act, enter, outside, Bool.false_eq_true, if_false] at drops
  by_cases html : Name.canonical tag.name = "html"
  · simp [html, Pass.push] at drops
  by_cases dropped : Name.canonical tag.name ∈ discardedElements
  · refine ⟨dropped, ?_⟩
    cases closes : tag.selfClosing with
    | false => rfl
    | true => simp [html, dropped, closes] at drops
  rw [if_neg html, if_neg dropped] at drops
  by_cases body : Name.canonical tag.name = "body"
  · rw [if_pos body, openBody] at drops
    split at drops <;> simp [report] at drops
  · rw [if_neg body, stack_openElement] at drops
    cases closes : closesItself outer.inForeign tag <;> simp [closes, tagPiece, Piece.frames] at drops

/-- The start tags that put a dropped frame on a stack without such a frame on top. -/
theorem eq_push_of_step_drops {tag : Html.Tag} (outside : outer.discarding = false)
    (drops : (outer.step setting (.startTag tag)).stack = .discarded name :: outer.stack) :
    name ∈ discardedElements ∧
      outer.step setting (.startTag tag) = outer.push (.discarded name) := by
  rw [step_eq, settle_outside outside] at drops ⊢
  obtain ⟨dropped, opens⟩ := dropped_of_stack_act outside drops
  rw [act_dropped setting outer dropped opens] at drops ⊢
  obtain rfl : Name.canonical tag.name = name := by simpa [Pass.push] using drops
  exact ⟨dropped, rfl⟩

/-- Content that is not markup and that no output may hold stands in a dropped frame. -/
theorem stack_step_of_raw (setting : Setting) (pass : Pass) {tag : Html.Tag}
    (raw : (Html.RawKind.after tag).isSome = true)
    (name : tag.name ∈ ["script", "style", "noscript", "iframe"]) :
    (pass.step setting (.startTag tag)).stack.head? = some (.discarded tag.name) := by
  have opens : tag.selfClosing = false := by
    cases closes : tag.selfClosing with
    | false => rfl
    | true => simp [Html.RawKind.after, closes] at raw
  have same : ∀ name ∈ ["script", "style", "noscript", "iframe"],
      Name.canonical name = name ∧ name ∈ discardedElements := by decide +kernel
  obtain ⟨canonical, dropped⟩ := same tag.name name
  rw [step_eq, act_dropped setting _ (by rwa [canonical]) opens, canonical]
  rfl

/-! ### The main statement -/

/-- **Dropped content leaves no trace.** In the first part a start tag puts a dropped frame on a
stack without one on top. Up to the first state without that frame every state is the outer one with
dropped frames on top, and were the document to end there, it would be converted as without them; the
first state without the frame is the outer one. The second part: what the reader of tokens does not
read as markup behind a start tag of these names stands in dropped content. -/
theorem dropped_content_inert (setting : Setting) :
    (∀ (outer : Pass) (tag : Html.Tag) (name : String), outer.discarding = false →
      (outer.step setting (.startTag tag)).stack = .discarded name :: outer.stack →
      name ∈ discardedElements ∧
      ∀ tokens before state after,
        visited setting (outer.step setting (.startTag tag)) tokens = before ++ state :: after →
        (∀ earlier ∈ before, (.discarded name :: outer.stack) <:+ earlier.stack) →
        ((.discarded name :: outer.stack) <:+ state.stack →
          Inside outer (.discarded name) state ∧ state.finish setting = outer.finish setting) ∧
        (¬ (.discarded name :: outer.stack) <:+ state.stack → state = outer)) ∧
    ∀ (pass : Pass) (tag : Html.Tag), (Html.RawKind.after tag).isSome = true →
      tag.name ∈ ["script", "style", "noscript", "iframe"] →
      (pass.step setting (.startTag tag)).stack.head? = some (.discarded tag.name) := by
  refine ⟨fun outer tag name outside drops => ?_, fun pass tag => stack_step_of_raw setting pass⟩
  obtain ⟨dropped, entered⟩ := eq_push_of_step_drops outside drops
  refine ⟨dropped, fun tokens before state after visits held => ?_⟩
  rw [entered] at visits
  have begun : Inside outer (.discarded name) (outer.push (.discarded name)) := ⟨[], by simp, rfl⟩
  have reached := inside_or_eq_of_visited outside (.inl begun) visits held
  refine ⟨fun frame => ?_, fun left => reached.resolve_left fun inside => left inside.suffix⟩
  have inside := inside_of_suffix reached frame
  exact ⟨inside, inside.finish⟩

/-- A body and an end tag for an outer element, inside a title that is left open in a head. -/
def insideHead : List Html.Token :=
  [.startTag ⟨"title", [], false⟩, .startTag ⟨"body", [], false⟩, .endTag "p", .endTag "head"]

theorem dropped_content_inert_head :
    let outer := run {} {} [.startTag ⟨"p", [], false⟩]
    let tag : Html.Tag := ⟨"head", [], false⟩
    outer.discarding = false ∧
      (outer.step {} (.startTag tag)).stack = .discarded "head" :: outer.stack ∧
      run {} (outer.step {} (.startTag tag)) insideHead = outer ∧
      (Html.RawKind.after ⟨"iframe", [], false⟩).isSome = true ∧
      (outer.step {} (.startTag ⟨"iframe", [], false⟩)).stack.head? =
        some (.discarded "iframe") := by
  intro outer tag
  have outside : outer.discarding = false := by decide
  have drops : (outer.step {} (.startTag tag)).stack = .discarded "head" :: outer.stack := by
    decide +kernel
  obtain ⟨traceless, raw⟩ := dropped_content_inert {}
  have left := (traceless outer tag "head" outside drops).2 insideHead
    ((visited {} (outer.step {} (.startTag tag)) insideHead).take 8)
    (run {} (outer.step {} (.startTag tag)) insideHead) [] (by decide +kernel) (by decide +kernel)
  exact ⟨outside, drops, left.2 (by decide +kernel), rfl, raw outer _ rfl (by decide)⟩

end JsxPages.Document.Pass
