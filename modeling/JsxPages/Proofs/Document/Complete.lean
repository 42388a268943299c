import JsxPages.Proofs.Document.Dropped
/-!
# Elements that are complete

An end tag closes a stack down to the first frame of its name. So an element whose frame stays open
up to its own end tag leaves the stack as it was, whatever it holds (`stack_of_isComplete`). In
dropped content the frame does stay open if the element holds no tag of its own name and no end tag
of an element that is open around it (`isComplete_of_passes`).
-/

namespace JsxPages.Document

def elementTokens (start : Html.Tag) (content : List Html.Token) (ending : String) :
    List Html.Token :=
  .startTag start :: (content ++ [.endTag ending])

namespace Pass

/-- A complete element: its start tag opens a frame, nothing in the element closes the frame, and
the end tag of the same name does. -/
structure IsComplete (setting : Setting) (pass : Pass) (frame : Frame) (start : Html.Tag)
    (content : List Html.Token) (ending : String) : Prop where
  named : Name.canonical ending = Name.canonical start.name
  opened : (pass.step setting (.startTag start)).stack = frame :: pass.stack
  held : ∀ state ∈ visited setting (pass.step setting (.startTag start)) content,
    (frame :: pass.stack) <:+ state.stack
  closed : ¬ (frame :: pass.stack) <:+ (pass.run setting (elementTokens start content ending)).stack

variable {setting : Setting} {pass : Pass}

theorem run_nil (setting : Setting) (pass : Pass) : pass.run setting [] = pass :=
  rfl

theorem run_elementTokens (setting : Setting) (pass : Pass) (start : Html.Tag)
    (content : List Html.Token) (ending : String) :
    pass.run setting (elementTokens start content ending) =
      (run setting (pass.step setting (.startTag start)) content).closeTag ending := by
  rw [elementTokens, run_cons, run_append, run_cons, run_nil]
  rfl

/-! ### What is left of a stack -/

theorem run_mem_visited (setting : Setting) (pass : Pass) (tokens : List Html.Token) :
    pass.run setting tokens ∈ visited setting pass tokens := by
  induction tokens generalizing pass with
  | nil => exact List.mem_singleton_self _
  | cons token tokens ih =>
    rw [run_cons, visited]
    exact List.mem_cons_of_mem _ (List.mem_cons_of_mem _ (ih _))

/-- A start tag puts at most one frame on the stack, and one of its name. -/
theorem stack_act_startTag (setting : Setting) (pass : Pass) (tag : Html.Tag) :
    (pass.act setting (.startTag tag)).stack = pass.stack ∨
      ∃ frame, frame.closedBy (Name.canonical tag.name) = true ∧
        (pass.act setting (.startTag tag)).stack = frame :: pass.stack := by
  simp only [act, enter]
  split
  · split
    · exact .inl rfl
    · exact .inr ⟨_, by simp [Frame.closedBy], rfl⟩
  split
  · rename_i html
    exact .inr ⟨.document, by simp [Frame.closedBy, html], rfl⟩
  split
  · split
    · exact .inl rfl
    · exact .inr ⟨_, by simp [Frame.closedBy], rfl⟩
  split
  · rename_i body
    rw [openBody]
    split
    · exact .inl rfl
    · exact .inr ⟨.body, by simp [Frame.closedBy, body], rfl⟩
  · rw [stack_openElement]
    cases closesItself pass.inForeign tag with
    | true => exact .inl rfl
    | false => exact .inr ⟨_, by simp [Frame.closedBy], rfl⟩

theorem stack_settle_suffix (pass : Pass) (token : Html.Token) :
    (pass.settle token).stack <:+ pass.stack := by
  rcases pass.settle_cases token with same | ⟨rest, top, left⟩
  · exact ⟨[], congrArg stack same⟩
  · rw [left, top]
    exact List.suffix_cons _ _

theorem closedBy_of_stack_step {tag : Html.Tag} {frame : Frame}
    (opened : (pass.step setting (.startTag tag)).stack = frame :: pass.stack) :
    frame.closedBy (Name.canonical tag.name) = true := by
  rw [step_eq] at opened
  rcases stack_act_startTag setting (pass.settle (.startTag tag)) tag with
    same | ⟨other, named, pushed⟩
  · have shorter := stack_settle_suffix pass (.startTag tag)
    rw [← same, opened] at shorter
    exact absurd shorter (not_cons_suffix frame pass.stack)
  · obtain ⟨rfl, _⟩ := List.cons.inj (pushed.symm.trans opened)
    exact named

theorem stack_closeThrough (name : String) (frames : List Frame) (pass : Pass) :
    (closeThrough name frames pass).stack =
      (frames.dropWhile fun frame => !frame.closedBy name).tail := by
  induction frames generalizing pass with
  | nil => rfl
  | cons frame rest ih =>
    rw [closeThrough]
    cases closes : frame.closedBy name with
    | true => simp [closes]
    | false => simpa [closes] using ih _

/-- An end tag leaves a stack as it was, or closes its frames down to the first of its name. -/
theorem stack_closeTag (pass : Pass) (written : String) :
    (pass.closeTag written).stack = pass.stack ∨
      (pass.closeTag written).stack =
        (pass.stack.dropWhile fun frame => !frame.closedBy (Name.canonical written)).tail := by
  simp only [closeTag]
  split
  · exact .inl rfl
  split
  · exact .inr (stack_closeThrough _ _ _)
  split <;> exact .inl rfl

/-- A frame that an end tag matches is closed by it, unless one above it is. -/
theorem tail_dropWhile_cases {name : String} {frame : Frame} (closes : frame.closedBy name = true)
    (above rest : List Frame) :
    ((above ++ frame :: rest).dropWhile fun frame => !frame.closedBy name).tail = rest ∨
      (frame :: rest) <:+
        ((above ++ frame :: rest).dropWhile fun frame => !frame.closedBy name).tail := by
  rw [List.dropWhile_append, List.dropWhile_cons_of_neg (by simp [closes])]
  cases above.dropWhile fun frame => !frame.closedBy name with
  | nil => exact .inl rfl
  | cons first between => exact .inr ⟨between, rfl⟩

/-- A complete element leaves the stack as it was. -/
theorem stack_of_isComplete {frame : Frame} {start : Html.Tag} {content : List Html.Token}
    {ending : String} (complete : pass.IsComplete setting frame start content ending) :
    (pass.run setting (elementTokens start content ending)).stack = pass.stack := by
  obtain ⟨named, opened, held, closed⟩ := complete
  have closes : frame.closedBy (Name.canonical ending) = true := by
    rw [named]
    exact closedBy_of_stack_step opened
  obtain ⟨above, stack⟩ := held _ (run_mem_visited setting _ content)
  simp only [run_elementTokens] at closed ⊢
  rcases stack_closeTag (run setting (pass.step setting (.startTag start)) content) ending with
    same | through
  · exact absurd ⟨above, stack.trans same.symm⟩ closed
  · simp only [through, ← stack] at closed ⊢
    exact (tail_dropWhile_cases closes above pass.stack).resolve_right closed

/-! ### Complete elements of dropped content -/

/-- A token that neither opens nor closes an element of a name, and closes nothing around it. -/
def Passes (outer : Pass) (name : String) : Html.Token → Prop
  | .startTag tag => Name.canonical tag.name ≠ name
  | .endTag written =>
    Name.canonical written ≠ name ∧
      outer.candidates.any (·.closedBy (Name.canonical written)) = false
  | .text _ | .comment _ => True

/-- A pass like another, but inside an element of dropped content that holds no other of its
name. -/
def Within (outer : Pass) (name : String) (pass : Pass) : Prop :=
  ∃ inner : List String, name ∉ inner ∧
    pass = { outer with stack := inner.map .discarded ++ .discarded name :: outer.stack }

variable {outer : Pass} {name : String}

theorem Within.inside (within : Within outer name pass) : Inside outer (.discarded name) pass := by
  obtain ⟨inner, _, rfl⟩ := within
  refine ⟨inner.map .discarded, fun frame mem => ?_, rfl⟩
  obtain ⟨other, _, rfl⟩ := List.mem_map.1 mem
  rfl

theorem Within.settle (within : Within outer name pass) (notHead : name ≠ "head")
    (token : Html.Token) : Within outer name (pass.settle token) := by
  rcases pass.settle_cases token with same | ⟨rest, top, left⟩
  · rwa [same]
  obtain ⟨inner, notMem, rfl⟩ := within
  rw [left]
  cases inner with
  | nil => exact absurd (Frame.discarded.inj (List.cons.inj top).1) notHead
  | cons first inner =>
    obtain rfl := (List.cons.inj top).2
    exact ⟨inner, fun mem => notMem (List.mem_cons_of_mem _ mem), rfl⟩

theorem Within.candidates (within : Within outer name pass) (discarding : outer.discarding = true) :
    ∃ inner : List String, name ∉ inner ∧
      pass = { outer with stack := inner.map .discarded ++ .discarded name :: outer.stack } ∧
      pass.candidates = inner.map .discarded ++ .discarded name :: outer.candidates := by
  have inside := within.inside.discarding
  obtain ⟨inner, notMem, rfl⟩ := within
  refine ⟨inner, notMem, rfl, ?_⟩
  rw [Pass.candidates, Pass.candidates, if_pos inside, if_pos discarding,
    List.takeWhile_append_of_pos (by simp [Frame.isDiscarded]),
    List.takeWhile_cons_of_pos (by simp [Frame.isDiscarded])]

theorem Within.closeTag (within : Within outer name pass) (discarding : outer.discarding = true)
    {written : String} (passes : outer.Passes name (.endTag written)) :
    Within outer name (pass.closeTag written) := by
  have inside := within.inside.discarding
  have same := within
  obtain ⟨inner, notMem, stack, candidates⟩ := within.candidates discarding
  obtain ⟨other, around⟩ := passes
  rw [Pass.closeTag]
  split
  · exact same
  split
  · rename_i found
    -- the frame that is closed is one of an element in the element
    have found : (inner.map Frame.discarded).any (·.closedBy (Name.canonical written)) = true := by
      rw [candidates, List.any_append, List.any_cons, around, Bool.or_false] at found
      simpa [Frame.closedBy, other.symm] using found
    obtain ⟨kept, suffix, closed⟩ := closeThrough_dropped (.discarded name :: outer.stack) pass
      (by simp [Frame.isDiscarded]) found
    obtain ⟨names, shorter, rfl⟩ := List.suffix_map_iff.1 suffix
    refine ⟨names, fun mem => notMem (shorter.subset mem), ?_⟩
    subst stack
    exact closed
  · exact same

theorem Within.act (setting : Setting) (within : Within outer name pass)
    (discarding : outer.discarding = true) {token : Html.Token} (passes : outer.Passes name token) :
    Within outer name (pass.act setting token) := by
  have inside := within.inside.discarding
  cases token with
  | startTag tag =>
    rw [Pass.act, enter, if_pos inside]
    split
    · exact within
    · obtain ⟨inner, notMem, rfl⟩ := within
      exact ⟨Name.canonical tag.name :: inner,
        List.not_mem_cons_of_ne_of_not_mem passes.symm notMem, rfl⟩
  | endTag written => exact within.closeTag discarding passes
  | text piece =>
    rw [Pass.act, if_pos inside]
    exact within
  | comment text =>
    rw [Pass.act, comment, inside, Bool.true_or, if_pos rfl]
    exact within

theorem within_of_mem_visited (setting : Setting) (discarding : outer.discarding = true)
    (notHead : name ≠ "head") {content : List Html.Token} (passes : ∀ token ∈ content, outer.Passes name token)
    (within : Within outer name pass) :
    ∀ state ∈ visited setting pass content, Within outer name state := by
  induction content generalizing pass with
  | nil => simpa [visited] using within
  | cons token content ih =>
    obtain ⟨passesToken, passesRest⟩ := List.forall_mem_cons.1 passes
    have settled := within.settle notHead token
    have stepped := settled.act setting discarding passesToken
    rw [← step_eq] at stepped
    exact List.forall_mem_cons.2 ⟨within, List.forall_mem_cons.2 ⟨settled, ih passesRest stepped⟩⟩

theorem Within.stack_closeTag (within : Within outer name pass)
    (discarding : outer.discarding = true) (notVoid : Name.isVoid name = false) {written : String}
    (named : Name.canonical written = name) :
    (pass.closeTag written).stack = outer.stack := by
  obtain ⟨inner, notMem, stack, candidates⟩ := within.candidates discarding
  have found : pass.candidates.any (·.closedBy name) = true := by
    simp [candidates, Frame.closedBy]
  have above : ∀ frame ∈ inner.map Frame.discarded, (!frame.closedBy name) = true := by
    rintro frame mem
    obtain ⟨other, isInner, rfl⟩ := List.mem_map.1 mem
    have differs : other ≠ name := by
      rintro rfl
      exact notMem isInner
    simp [Frame.closedBy, differs]
  rw [Pass.closeTag, named, notVoid, if_neg (by decide), if_pos found, stack_closeThrough, stack,
    List.dropWhile_append_of_pos above, List.dropWhile_cons_of_neg (by simp [Frame.closedBy]),
    List.tail_cons]

theorem step_startTag_inside (setting : Setting) (inside : pass.discarding = true) {tag : Html.Tag}
    (stands : Name.canonical tag.name ∈ headContent) :
    pass.step setting (.startTag tag) =
      if closesItself pass.inForeign tag then pass
      else pass.push (.discarded (Name.canonical tag.name)) := by
  rw [step_eq, settle, if_pos stands, act, enter, if_pos inside]

/-- In an open head, or in other dropped content, an element that may stand in a head is complete if
it holds no tag of its own name and no end tag of an element around it. -/
theorem isComplete_of_passes (setting : Setting) (discarding : pass.discarding = true)
    (start : Html.Tag) (content : List Html.Token) (ending : String)
    (stands : Name.canonical start.name ∈ headContent)
    (opens : closesItself pass.inForeign start = false)
    (named : Name.canonical ending = Name.canonical start.name)
    (passes : ∀ token ∈ content, pass.Passes (Name.canonical start.name) token) :
    pass.IsComplete setting (.discarded (Name.canonical start.name)) start content ending := by
  have notHead : Name.canonical start.name ≠ "head" := by
    intro isHead
    rw [isHead] at stands
    exact absurd stands (by decide)
  have notVoid : Name.isVoid (Name.canonical start.name) = false := by
    cases isVoid : Name.isVoid (Name.canonical start.name) with
    | false => rfl
    | true => simp [closesItself, isVoid] at opens
  have step : pass.step setting (.startTag start) =
      pass.push (.discarded (Name.canonical start.name)) := by
    rw [step_startTag_inside setting discarding stands, opens, if_neg (by decide)]
  have begun : Within pass (Name.canonical start.name) (pass.step setting (.startTag start)) :=
    ⟨[], by simp, step⟩
  have held := within_of_mem_visited setting discarding notHead passes begun
  refine ⟨named, by rw [step]; rfl, fun state mem => (held state mem).inside.suffix, ?_⟩
  have within := held _ (run_mem_visited setting _ content)
  rw [run_elementTokens, within.stack_closeTag discarding notVoid named]
  exact not_cons_suffix _ _

end Pass

end JsxPages.Document
