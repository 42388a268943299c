import JsxPages.Proofs.Document.Nested
/-!
# Tags of the document and of the body leave no trace

A document need not say where it and its body begin and end. The same content, on its own and
between tags of a document and a body without attributes, goes to different outputs and stands on
stacks of different depth, but it is converted to the same markup with the same tables, and what is
reported while it is read is the same.

`Pass.enclosed` is what a pass over the content alone would be like between these tags. It commutes
with every token of the content, as long as the content itself has no tag of a document or a body
(`step_enclosed`); `Bare` is what such a pass keeps to. The two passes part where the content ends:
one closes what is still open at the end of the document, the other at the end tag of the body, or
at the end of the document as well if the content ends inside something dropped.
-/

namespace JsxPages.Document

/-- Whether elements of this canonical name are the document or its body. -/
def isPageName (name : String) : Bool :=
  name == "html" || name == "body"

def isPageTag : Html.Token → Bool
  | .startTag tag => isPageName (Name.canonical tag.name)
  | .endTag name => isPageName (Name.canonical name)
  | .text _ | .comment _ => false

/-- The start tags of a document and of its body. -/
def pageStart : List Html.Token :=
  [.startTag ⟨"html", [], false⟩, .startTag ⟨"body", [], false⟩]

/-- The end tags of a body and of its document. -/
def pageEnd : List Html.Token :=
  [.endTag "body", .endTag "html"]

namespace Frame

/-- The frame in its place inside the body. -/
def enclosed : Frame → Frame
  | element name _ => element name .main
  | discarded name => discarded name
  | body => body
  | document => document

/-- Frames of a pass that has met no tag of a document or a body. -/
def IsBare : Frame → Prop
  | element name target => target = .preBody ∧ isPageName name = false
  | discarded name => isPageName name = false
  | body | document => False

@[simp] theorem closedBy_enclosed (frame : Frame) (name : String) :
    frame.enclosed.closedBy name = frame.closedBy name := by
  cases frame <;> rfl

@[simp] theorem isDiscarded_enclosed (frame : Frame) :
    frame.enclosed.isDiscarded = frame.isDiscarded := by
  cases frame <;> rfl

@[simp] theorem isForeign_enclosed (frame : Frame) :
    frame.enclosed.isForeign = frame.isForeign := by
  cases frame <;> rfl

theorem IsBare.closedBy_eq_false {frame : Frame} (bare : frame.IsBare) {name : String}
    (page : isPageName name = true) : frame.closedBy name = false := by
  have other {open' : String} (notPage : isPageName open' = false) : (open' == name) = false := by
    rw [beq_eq_false_iff_ne]
    rintro rfl
    rw [page] at notPage
    cases notPage
  cases frame with
  | element open' target => exact other bare.2
  | discarded open' => exact other bare
  | body | document => exact bare.elim

end Frame

namespace Pass

/-- A stack inside a body and a document. -/
def enclose (stack : List Frame) : List Frame :=
  stack.map Frame.enclosed ++ [.body, .document]

/-- A pass as it would be inside a body and a document without attributes. -/
def enclosed (pass : Pass) : Pass :=
  { pass with
    stack := enclose pass.stack
    bodySeen := true
    bodyOpen := true
    bodyAttributes := some ""
    main := pass.preBody
    preBody := "" }

/-- A pass that has met no tag of a document or a body. -/
structure Bare (pass : Pass) : Prop where
  frames : ∀ frame ∈ pass.stack, frame.IsBare
  not_open : pass.bodyOpen = false
  not_seen : pass.bodySeen = false
  no_attributes : pass.bodyAttributes = none

variable {setting : Setting} {pass : Pass}

theorem bare_initial (tables : Tables) : Bare { tables } :=
  ⟨by simp, rfl, rfl, rfl⟩

theorem Bare.target_eq (bare : Bare pass) : pass.target = .preBody := by
  simp [target, bare.not_open]

theorem target_enclosed (pass : Pass) : pass.enclosed.target = .main :=
  rfl

theorem enclosed_write (pass : Pass) (text : String) :
    (pass.write .preBody text).enclosed = pass.enclosed.write .main text :=
  rfl

/-- Where nothing is open the top of the stack is the body, which is no dropped content. -/
theorem discarding_enclosed (pass : Pass) : pass.enclosed.discarding = pass.discarding := by
  cases stack : pass.stack with
  | nil => simp [discarding, enclosed, enclose, stack, Frame.isDiscarded]
  | cons frame rest => simp only [discarding, enclosed, enclose, stack, List.map_cons,
      List.cons_append, List.head?_cons, Option.any_some, Frame.isDiscarded_enclosed]

theorem inForeign_enclosed (pass : Pass) : pass.enclosed.inForeign = pass.inForeign := by
  have page : ([.body, .document] : List Frame).any Frame.isForeign = false := rfl
  simp only [inForeign, enclosed, enclose, List.any_append, page, Bool.or_false, List.any_map,
    Function.comp_def, Frame.isForeign_enclosed]

/-! ### Start tags, text and comments -/

theorem settle_enclosed (pass : Pass) (token : Html.Token) :
    pass.enclosed.settle token = (pass.settle token).enclosed := by
  have leave : pass.enclosed.leaveHead = pass.leaveHead.enclosed := by
    rcases pass with ⟨_ | ⟨⟨name, _⟩ | name | _ | _, rest⟩, _, _, _, _, _, _, _⟩
    case cons.discarded =>
      by_cases head : name = "head"
      · subst head
        rfl
      · simp [leaveHead, enclosed, enclose, Frame.enclosed, head]
    all_goals rfl
  cases token with
  | startTag tag =>
    simp only [settle]
    split
    · rfl
    · exact leave
  | text piece =>
    simp only [settle]
    split
    · rfl
    · exact leave
  | endTag | comment => rfl

theorem openElement_enclosed (bare : Bare pass) (name : String)
    (attributes : List (String × String)) (closed : Bool) :
    pass.enclosed.openElement setting name attributes closed =
      (pass.openElement setting name attributes closed).enclosed := by
  obtain ⟨stack, seen, opened, body, main, preBody, diagnostics, tables⟩ := pass
  obtain rfl : opened = false := bare.not_open
  cases closed <;> rfl

theorem enter_enclosed (bare : Bare pass) {name : String} (inner : isPageName name = false)
    (tag : Html.Tag) (closed : Bool) :
    pass.enclosed.enter setting name tag closed =
      (pass.enter setting name tag closed).enclosed := by
  obtain ⟨notHtml, notBody⟩ : name ≠ "html" ∧ name ≠ "body" := by simpa [isPageName] using inner
  simp only [enter, discarding_enclosed, notHtml, notBody, if_false]
  split
  · split <;> rfl
  split
  · split <;> rfl
  · exact openElement_enclosed bare name tag.attributes closed

/-! ### End tags -/

theorem closeFrame_enclosed {frame : Frame} (bare : frame.IsBare) (pass : Pass) :
    pass.enclosed.closeFrame frame.enclosed = (pass.closeFrame frame).enclosed := by
  cases frame with
  | element name target =>
    obtain rfl := bare.1
    rfl
  | discarded name => rfl
  | body | document => exact bare.elim

theorem reportMismatch_enclosed (pass : Pass) (name : String) (frame : Frame) :
    pass.enclosed.reportMismatch name frame.enclosed =
      (pass.reportMismatch name frame).enclosed := by
  cases frame <;> rfl

/-- An end tag that closes a frame of the content closes the same frames inside the body. -/
theorem closeThrough_enclosed {name : String} {frames : List Frame} (pass : Pass)
    (bare : ∀ frame ∈ frames, frame.IsBare) (found : frames.any (·.closedBy name) = true) :
    closeThrough name (enclose frames) pass.enclosed =
      (closeThrough name frames pass).enclosed := by
  induction frames generalizing pass with
  | nil => cases found
  | cons frame rest ih =>
    obtain ⟨first, others⟩ := List.forall_mem_cons.1 bare
    simp only [enclose, List.map_cons, List.cons_append, closeThrough, Frame.closedBy_enclosed]
    split
    · rw [closeFrame_enclosed first]
      rfl
    · rename_i unmatched
      rw [reportMismatch_enclosed, closeFrame_enclosed first]
      exact ih _ others (by simpa [unmatched] using found)

theorem any_enclose (stack : List Frame) (name : String) :
    (enclose stack).any (·.closedBy name) =
      (stack.any (·.closedBy name) || isPageName name) := by
  have page : [Frame.body, .document].any (·.closedBy name) = isPageName name := by
    simp [Frame.closedBy, isPageName, Bool.or_comm]
  simp only [enclose, List.any_append, List.any_map, Function.comp_def, Frame.closedBy_enclosed,
    page]

theorem takeWhile_enclose (stack : List Frame) :
    (enclose stack).takeWhile Frame.isDiscarded =
      (stack.takeWhile Frame.isDiscarded).map Frame.enclosed := by
  induction stack with
  | nil => rfl
  | cons frame rest ih =>
    simp only [enclose, List.map_cons, List.cons_append, List.takeWhile_cons,
      Frame.isDiscarded_enclosed] at ih ⊢
    split
    · rw [ih, List.map_cons]
    · rfl

/-- Inside dropped content an end tag sees the same frames, elsewhere also those of the page. -/
theorem any_candidates_enclosed (pass : Pass) (name : String) :
    pass.enclosed.candidates.any (·.closedBy name) =
      (pass.candidates.any (·.closedBy name) || (!pass.discarding && isPageName name)) := by
  simp only [candidates, discarding_enclosed]
  cases pass.discarding with
  | true =>
    have dropped := takeWhile_enclose pass.stack
    simp only [enclosed, if_true, dropped, List.any_map, Function.comp_def,
      Frame.closedBy_enclosed, Bool.not_true, Bool.false_and, Bool.or_false]
  | false =>
    simp only [enclosed, Bool.false_eq_true, if_false, any_enclose, Bool.not_false, Bool.true_and]

theorem any_stack_of_candidates {name : String} (found : pass.candidates.any (·.closedBy name)) :
    pass.stack.any (·.closedBy name) := by
  obtain ⟨frame, mem, closed⟩ := List.any_eq_true.1 found
  refine List.any_eq_true.2 ⟨frame, ?_, closed⟩
  rw [candidates] at mem
  split at mem
  · exact (List.takeWhile_subset _) mem
  · exact mem

theorem closeTag_enclosed (bare : Bare pass) {written : String}
    (inner : isPageName (Name.canonical written) = false) :
    pass.enclosed.closeTag written = (pass.closeTag written).enclosed := by
  simp only [closeTag, any_candidates_enclosed, inner, Bool.and_false, Bool.or_false,
    discarding_enclosed]
  split
  · rfl
  split
  · rename_i found
    exact closeThrough_enclosed pass bare.frames (any_stack_of_candidates found)
  split <;> rfl

/-! ### What a pass over the content keeps to -/

theorem Bare.withStack (bare : Bare pass) {stack : List Frame}
    (frames : ∀ frame ∈ stack, frame.IsBare) : Bare { pass with stack } :=
  ⟨frames, bare.not_open, bare.not_seen, bare.no_attributes⟩

theorem Bare.push (bare : Bare pass) {frame : Frame} (bareFrame : frame.IsBare) :
    Bare (pass.push frame) :=
  bare.withStack (List.forall_mem_cons.2 ⟨bareFrame, bare.frames⟩)

theorem Bare.write (bare : Bare pass) (target : Target) (text : String) :
    Bare (pass.write target text) := by
  obtain ⟨frames, notOpen, notSeen, noAttributes⟩ := bare
  constructor <;> simpa

theorem Bare.report (bare : Bare pass) (diagnostic : Diagnostic) :
    Bare (pass.report diagnostic) :=
  ⟨bare.frames, bare.not_open, bare.not_seen, bare.no_attributes⟩

theorem Bare.reportMismatch (bare : Bare pass) (name : String) (frame : Frame) :
    Bare (pass.reportMismatch name frame) := by
  cases frame with
  | element expected target => exact bare.report _
  | discarded | body | document => exact bare

theorem Bare.closeFrame (bare : Bare pass) {frame : Frame} (bareFrame : frame.IsBare) :
    Bare (pass.closeFrame frame) := by
  cases frame with
  | element name target => exact bare.write target _
  | discarded name => exact bare
  | body | document => exact bareFrame.elim

theorem Bare.settle (bare : Bare pass) (token : Html.Token) : Bare (pass.settle token) := by
  rcases pass.settle_cases token with same | ⟨rest, top, left⟩
  · rwa [same]
  · rw [left]
    have frames := bare.frames
    rw [top] at frames
    exact bare.withStack (List.forall_mem_cons.1 frames).2

theorem Bare.openElement (bare : Bare pass) {name : String} (inner : isPageName name = false)
    (attributes : List (String × String)) (closed : Bool) :
    Bare (pass.openElement setting name attributes closed) := by
  simp only [Pass.openElement]
  generalize Attribute.convert _ _ _ _ _ = converted
  have filed : Bare { pass with tables := converted.2 } :=
    ⟨bare.frames, bare.not_open, bare.not_seen, bare.no_attributes⟩
  split
  · exact filed.write _ _
  · exact (filed.write _ _).push ⟨filed.target_eq, inner⟩

theorem Bare.enter (bare : Bare pass) {name : String} (inner : isPageName name = false)
    (tag : Html.Tag) (closed : Bool) : Bare (pass.enter setting name tag closed) := by
  obtain ⟨notHtml, notBody⟩ : name ≠ "html" ∧ name ≠ "body" := by simpa [isPageName] using inner
  simp only [Pass.enter, notHtml, notBody, if_false]
  split
  · split
    · exact bare
    · exact bare.push inner
  split
  · split
    · exact bare
    · exact bare.push inner
  · exact bare.openElement inner tag.attributes closed

theorem Bare.closeThrough (bare : Bare pass) (name : String) {frames : List Frame}
    (bareFrames : ∀ frame ∈ frames, frame.IsBare) :
    Bare (Pass.closeThrough name frames pass) := by
  induction frames generalizing pass with
  | nil => exact bare.withStack (by simp)
  | cons frame rest ih =>
    obtain ⟨first, others⟩ := List.forall_mem_cons.1 bareFrames
    simp only [Pass.closeThrough]
    split
    · exact (bare.closeFrame first).withStack others
    · exact ih ((bare.reportMismatch name frame).closeFrame first) others

theorem Bare.closeTag (bare : Bare pass) (written : String) : Bare (pass.closeTag written) := by
  simp only [Pass.closeTag]
  split
  · exact bare
  split
  · exact bare.closeThrough _ bare.frames
  split
  · exact bare
  · exact bare.report _

theorem Bare.act (bare : Bare pass) {token : Html.Token} (inner : isPageTag token = false) :
    Bare (pass.act setting token) := by
  cases token with
  | startTag tag => exact bare.enter inner tag _
  | endTag name => exact bare.closeTag name
  | text piece =>
    simp only [Pass.act]
    split
    · exact bare
    · exact bare.write _ _
  | comment text =>
    simp only [Pass.act, comment]
    split
    · exact bare
    · exact bare.write _ _

theorem Bare.step (bare : Bare pass) {token : Html.Token} (inner : isPageTag token = false) :
    Bare (pass.step setting token) := by
  rw [step_eq]
  exact (bare.settle token).act inner

/-! ### Tokens of the content -/

theorem act_enclosed (bare : Bare pass) {token : Html.Token} (inner : isPageTag token = false) :
    pass.enclosed.act setting token = (pass.act setting token).enclosed := by
  cases token with
  | startTag tag =>
    simp only [act, inForeign_enclosed]
    exact enter_enclosed bare inner tag _
  | endTag name => exact closeTag_enclosed bare inner
  | text piece =>
    simp only [act, discarding_enclosed, target_enclosed, bare.target_eq, ← enclosed_write]
    split <;> rfl
  | comment text =>
    simp only [act, comment, discarding_enclosed, target_enclosed, bare.target_eq,
      ← enclosed_write]
    split <;> rfl

theorem step_enclosed (bare : Bare pass) {token : Html.Token} (inner : isPageTag token = false) :
    pass.enclosed.step setting token = (pass.step setting token).enclosed := by
  have settled : Bare (pass.settle token) := bare.settle token
  rw [step_eq, step_eq, settle_enclosed, act_enclosed settled inner]

/-- **Content is read alike** on its own and between the tags of a page. -/
theorem run_enclosed (bare : Bare pass) {tokens : List Html.Token}
    (inner : ∀ token ∈ tokens, isPageTag token = false) :
    pass.enclosed.run setting tokens = (pass.run setting tokens).enclosed ∧
      Bare (pass.run setting tokens) := by
  induction tokens generalizing pass with
  | nil => exact ⟨rfl, bare⟩
  | cons token tokens ih =>
    obtain ⟨first, others⟩ := List.forall_mem_cons.1 inner
    rw [run_cons, run_cons, step_enclosed bare first]
    exact ih (bare.step first) others

/-! ### The tags of a page -/

theorem canonical_html : Name.canonical "html" = "html" := by decide +kernel

/-- Behind the start tags of a page a pass is where it began, but inside a body. -/
theorem run_pageStart (setting : Setting) (tables : Tables) :
    run setting { tables } pageStart = enclosed { tables } := by
  have html : step setting { tables } (.startTag ⟨"html", [], false⟩) =
      { tables, stack := [.document] } := by
    rw [step_eq, settle_outside rfl, act, canonical_html, enter, if_neg (by simp [discarding]),
      if_pos rfl]
    rfl
  have body : step setting { tables, stack := [.document] } (.startTag ⟨"body", [], false⟩) =
      enclosed { tables } := by
    rw [step_eq, settle_outside rfl, act, canonical_body, enter,
      if_neg (by simp [discarding, Frame.isDiscarded]), if_neg (by decide), if_neg (by decide),
      if_pos rfl]
    rfl
  rw [pageStart, run_cons, html, run_cons, body]
  rfl

/-- The names of the elements among some frames. -/
def openNames (frames : List Frame) : List String :=
  frames.filterMap (Frame.nameIn? .preBody)

/-- A pass behind the end tags of some elements, each of which is reported. -/
def shut (pass : Pass) (target : Target) (note : String → Diagnostic) (names : List String) :
    Pass :=
  { pass.write target (String.join (names.map endTag)) with
    diagnostics := pass.diagnostics ++ names.map note }

theorem shut_nil (pass : Pass) (target : Target) (note : String → Diagnostic) :
    pass.shut target note [] = pass := by
  cases target <;> simp [shut, write]

theorem shut_shut (pass : Pass) (target : Target) (note : String → Diagnostic) (name : String)
    (names : List String) :
    (pass.shut target note [name]).shut target note names =
      pass.shut target note (name :: names) := by
  cases target <;> simp [shut, write, String.append_assoc]

theorem closeFrame_report (pass : Pass) (note : String → Diagnostic) (name : String)
    (target : Target) :
    (pass.report (note name)).closeFrame (.element name target) = pass.shut target note [name] := by
  cases target <;> simp [closeFrame, report, write, shut, endTag]

theorem closeAll_bare {frames : List Frame} (bare : ∀ frame ∈ frames, frame.IsBare)
    (pass : Pass) :
    closeAll frames pass =
      { pass.shut .preBody .unclosed (openNames frames) with stack := [] } := by
  induction frames generalizing pass with
  | nil => rw [openNames, List.filterMap_nil, shut_nil]; rfl
  | cons frame rest ih =>
    obtain ⟨first, others⟩ := List.forall_mem_cons.1 bare
    rw [closeAll, ih others]
    cases frame with
    | element name target =>
      obtain rfl := first.1
      rw [reportUnclosed, closeFrame_report, shut_shut]
      rfl
    | discarded name => rfl
    | body | document => exact first.elim

theorem closeAll_enclose {frames : List Frame} (bare : ∀ frame ∈ frames, frame.IsBare)
    (pass : Pass) :
    closeAll (enclose frames) pass =
      { pass.shut .main .unclosed (openNames frames) with stack := [], bodyOpen := false } := by
  induction frames generalizing pass with
  | nil => rw [openNames, List.filterMap_nil, shut_nil]; rfl
  | cons frame rest ih =>
    obtain ⟨first, others⟩ := List.forall_mem_cons.1 bare
    have next : enclose (frame :: rest) = frame.enclosed :: enclose rest := rfl
    rw [next, closeAll, ih others]
    cases frame with
    | element name target =>
      obtain rfl := first.1
      rw [Frame.enclosed, reportUnclosed, closeFrame_report, shut_shut]
      rfl
    | discarded name => rfl
    | body | document => exact first.elim

theorem closeThrough_enclose {frames : List Frame} (bare : ∀ frame ∈ frames, frame.IsBare)
    (pass : Pass) :
    closeThrough "body" (enclose frames) pass =
      { pass.shut .main (.mismatchedClose · "body") (openNames frames) with
        stack := [.document]
        bodyOpen := false } := by
  induction frames generalizing pass with
  | nil => rw [openNames, List.filterMap_nil, shut_nil]; rfl
  | cons frame rest ih =>
    obtain ⟨first, others⟩ := List.forall_mem_cons.1 bare
    have next : enclose (frame :: rest) = frame.enclosed :: enclose rest := rfl
    have other : frame.enclosed.closedBy "body" = false := by
      rw [Frame.closedBy_enclosed, first.closedBy_eq_false rfl]
    rw [next, closeThrough, if_neg (by simp [other]), ih others]
    cases frame with
    | element name target =>
      obtain rfl := first.1
      rw [Frame.enclosed, reportMismatch,
        closeFrame_report _ (.mismatchedClose · "body"), shut_shut]
      rfl
    | discarded name => rfl
    | body | document => exact first.elim

theorem step_endHtml {pass : Pass} (stack : pass.stack = [.document]) :
    pass.step setting (.endTag "html") = { pass with stack := [] } := by
  have candidates : pass.candidates = [.document] := by
    simp [candidates, discarding, stack, Frame.isDiscarded]
  rw [step, closeTag, canonical_html, if_neg (by decide), candidates, if_pos (by rfl), stack]
  rfl

/-- The frames that an end tag of the page finds are those of the page. -/
theorem Bare.any_candidates (bare : Bare pass) {name : String} (page : isPageName name = true) :
    pass.enclosed.candidates.any (·.closedBy name) = !pass.discarding := by
  have none : pass.candidates.any (·.closedBy name) = false := by
    rw [← Bool.not_eq_true]
    intro found
    obtain ⟨frame, mem, closed⟩ := List.any_eq_true.1 (any_stack_of_candidates found)
    rw [(bare.frames frame mem).closedBy_eq_false page] at closed
    cases closed
  rw [any_candidates_enclosed, none, page, Bool.and_true, Bool.false_or]

/-- Where the content does not end inside something dropped, the end tags of the page close what it
left open. -/
theorem run_pageEnd (bare : Bare pass) (outside : pass.discarding = false) :
    pass.enclosed.run setting pageEnd =
      { pass.enclosed.shut .main (.mismatchedClose · "body") (openNames pass.stack) with
        stack := []
        bodyOpen := false } := by
  have body : pass.enclosed.step setting (.endTag "body") =
      { pass.enclosed.shut .main (.mismatchedClose · "body") (openNames pass.stack) with
        stack := [.document]
        bodyOpen := false } := by
    rw [step, closeTag, canonical_body, if_neg (by decide), bare.any_candidates rfl, outside,
      if_pos (by simp)]
    exact closeThrough_enclose bare.frames pass.enclosed
  rw [pageEnd, run_cons, body, run_cons, step_endHtml rfl]
  rfl

/-- Where it does, the end tags of the page are dropped with it. -/
theorem run_pageEnd_discarding (bare : Bare pass) (inside : pass.discarding = true) :
    pass.enclosed.run setting pageEnd = pass.enclosed := by
  have dropped : ∀ name ∈ ["body", "html"], pass.enclosed.step setting (.endTag name) =
      pass.enclosed := by
    intro name mem
    have page : isPageName name = true ∧ Name.canonical name = name ∧ Name.isVoid name = false := by
      simp only [List.mem_cons, List.not_mem_nil, or_false] at mem
      rcases mem with rfl | rfl
      · exact ⟨rfl, canonical_body, rfl⟩
      · exact ⟨rfl, canonical_html, rfl⟩
    obtain ⟨isPage, canonical, notVoid⟩ := page
    rw [step, closeTag, canonical, if_neg (by simp [notVoid]), bare.any_candidates isPage, inside,
      if_neg (by simp), if_pos (by rw [discarding_enclosed, inside])]
  rw [pageEnd, run_cons, dropped _ (by simp), run_cons, dropped _ (by simp)]
  rfl

/-- How the elements that content leaves open are reported between the tags of a page. -/
def pageNote (pass : Pass) (name : String) : Diagnostic :=
  if pass.discarding then .unclosed name else .mismatchedClose name "body"

theorem closed_eq_of_closeAll {ended : Pass} (all : closeAll pass.stack pass = ended) :
    pass.closed = if ended.bodySeen then ended else ended.report .missingBody := by
  subst all
  rfl

/-- The end of the document for content on its own. -/
theorem closed_bare (bare : Bare pass) :
    pass.closed =
      { pass.shut .preBody .unclosed (openNames pass.stack) with stack := [] }.report
        .missingBody := by
  rw [closed_eq_of_closeAll (closeAll_bare bare.frames pass), if_neg]
  simp [shut, bare.not_seen]

/-- The end of the document behind the end tags of a page. -/
theorem closed_pageEnd (bare : Bare pass) :
    (pass.enclosed.run setting pageEnd).closed =
      { pass.enclosed.shut .main pass.pageNote (openNames pass.stack) with
        stack := []
        bodyOpen := false } := by
  cases inside : pass.discarding with
  | false =>
    have note : pass.pageNote = (.mismatchedClose · "body") := by
      funext name
      simp [pageNote, inside]
    rw [run_pageEnd bare inside, note]
    rfl
  | true =>
    have note : pass.pageNote = .unclosed := by
      funext name
      simp [pageNote, inside]
    rw [run_pageEnd_discarding bare inside, note]
    exact (closed_eq_of_closeAll (closeAll_enclose bare.frames pass.enclosed)).trans (if_pos rfl)

theorem tables_pageEnd (bare : Bare pass) :
    (pass.enclosed.run setting pageEnd).tables = pass.tables := by
  cases inside : pass.discarding with
  | false =>
    rw [run_pageEnd bare inside]
    rfl
  | true =>
    rw [run_pageEnd_discarding bare inside]
    rfl

/-- Content is wrapped alike without a body and in a body without attributes. -/
theorem content_pageEnd (bare : Bare pass) :
    wrap setting.options.wrapperTag (pass.enclosed.run setting pageEnd).closed.bodyAttributes
        (pass.enclosed.run setting pageEnd).closed.content =
      wrap setting.options.wrapperTag pass.closed.bodyAttributes pass.closed.content := by
  rw [closed_pageEnd bare, closed_bare bare]
  simp [content, shut, write, report, enclosed, bare.not_seen, bare.no_attributes, wrap]

theorem jsx_pageEnd (bare : Bare pass) :
    ((pass.enclosed.run setting pageEnd).finish setting).jsx = (pass.finish setting).jsx := by
  simp only [finish, content_pageEnd bare]

theorem diagnostics_pageEnd (bare : Bare pass) :
    ((pass.enclosed.run setting pageEnd).finish setting).diagnostics =
      pass.diagnostics ++ (openNames pass.stack).map pass.pageNote := by
  simp only [finish]
  rw [closed_pageEnd bare]
  rfl

theorem diagnostics_bare (bare : Bare pass) :
    (pass.finish setting).diagnostics =
      pass.diagnostics ++ (openNames pass.stack).map .unclosed ++ [.missingBody] := by
  simp only [finish]
  rw [closed_bare bare]
  rfl

end Pass

/-- **The tags of a document and its body are transparent.** Content without such tags is converted
to the same markup and leaves the same tables on its own and between these tags, and what is
reported while it is read is the same. Behind that, each element left open is reported once in both
cases, and the missing body where there are no tags. -/
theorem convertTokens_page (setting : Setting) (tables : Tables) (tokens : List Html.Token)
    (inner : ∀ token ∈ tokens, isPageTag token = false) :
    let alone := convertTokens setting tokens tables
    let page := convertTokens setting (pageStart ++ tokens ++ pageEnd) tables
    let read := Pass.run setting { tables } tokens
    page.1.jsx = alone.1.jsx ∧ page.2 = alone.2 ∧
      (Pass.run setting { tables } (pageStart ++ tokens)).diagnostics = read.diagnostics ∧
      ∃ opened : List String,
        alone.1.diagnostics =
          read.diagnostics ++ opened.map .unclosed ++ [.missingBody] ∧
        page.1.diagnostics = read.diagnostics ++ opened.map read.pageNote := by
  intro alone page read
  obtain ⟨same, bare⟩ : (Pass.enclosed { tables }).run setting tokens = read.enclosed ∧ read.Bare :=
    Pass.run_enclosed (Pass.bare_initial tables) inner
  have inside : Pass.run setting { tables } (pageStart ++ tokens) = read.enclosed := by
    rw [Pass.run_append, Pass.run_pageStart, same]
  have whole : page =
      ((read.enclosed.run setting pageEnd).finish setting,
        (read.enclosed.run setting pageEnd).tables) := by
    simp only [page, convertTokens]
    rw [Pass.run_append, inside]
  rw [whole]
  exact ⟨Pass.jsx_pageEnd bare, Pass.tables_pageEnd bare, by rw [inside]; rfl,
    Pass.openNames read.stack, Pass.diagnostics_bare bare, Pass.diagnostics_pageEnd bare⟩

/-- Content that ends inside a head, behind an end tag that closes nothing, one that closes an
element inside another, and an element that is left open. -/
def unfinished : List Html.Token :=
  [.endTag "b", .startTag ⟨"p", [], false⟩, .startTag ⟨"i", [], false⟩, .text "x", .endTag "p",
    .startTag ⟨"div", [("style", "--a:1")], false⟩, .startTag ⟨"head", [], false⟩,
    .startTag ⟨"title", [], false⟩]

theorem convertTokens_page_unfinished :
    (∀ token ∈ unfinished, isPageTag token = false) ∧
      let page := convertTokens {} (pageStart ++ unfinished ++ pageEnd) {}
      page.1.jsx = "<><p><i>x</i></p><div className=\"custom-var-1\"></div></>" ∧
      page.2 = (convertTokens {} unfinished {}).2 ∧
      (Pass.run {} {} (pageStart ++ unfinished)).diagnostics =
        [.strayClose "b", .mismatchedClose "i" "p"] := by
  have inner : ∀ token ∈ unfinished, isPageTag token = false := by decide +kernel
  obtain ⟨jsx, tables, diagnostics, _⟩ := convertTokens_page {} {} unfinished inner
  exact ⟨inner, jsx.trans (by decide +kernel), tables, diagnostics.trans (by decide +kernel)⟩

end JsxPages.Document
