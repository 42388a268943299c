import JsxPages.Proofs.Document.Edit
/-!
# The log of a run

Pieces and end tags go to the outputs, and what was mended goes to the diagnostics. `log` lists both
as one sequence of events in the order of time, each token with what it makes of the state that it
arrives in, and `shows_log` says that this is what happens: an output holds the texts of the events
that go to it, and the diagnostics are the events that report.

A frame is closed for one of two reasons. Either an end tag of the document stands for it
(`Frame.named`), or it is closed because of something else, an end tag further out or the end of the
document (`Frame.supplied`). Only the second is reported.
-/

namespace JsxPages.Document

/-- What a pass writes or reports. -/
inductive Event where
  | piece (target : Target) (written : Piece)
  /-- An end tag, and whether an end tag of the document stands for it. -/
  | close (target : Target) (name : String) (named : Bool)
  /-- A body begins. -/
  | body
  | report (diagnostic : Diagnostic)
  deriving DecidableEq, Repr

namespace Event

/-- What an event writes to an output. -/
def textIn (target : Target) : Event → String
  | piece written sent => if written = target then sent.render else ""
  | close written name _ => if written = target then endTag name else ""
  | body | report _ => ""

def diagnostic? : Event → Option Diagnostic
  | report diagnostic => some diagnostic
  | piece .. | close .. | body => none

def isBody : Event → Bool
  | body => true
  | piece .. | close .. | report _ => false

end Event

namespace Frame

/-- A frame is closed by an end tag of its own. -/
def named : Frame → List Event
  | element name target => [.close target name true]
  | discarded _ | body | document => []

/-- A frame is closed without an end tag of its own, which is reported. -/
def supplied (note : String → Diagnostic) : Frame → List Event
  | element name target => [.report (note name), .close target name false]
  | discarded _ | body | document => []

end Frame

def diagnosticsOf (events : List Event) : List Diagnostic :=
  events.filterMap Event.diagnostic?

def textOf (target : Target) (events : List Event) : String :=
  String.join (events.map (Event.textIn target))

def isBodyTag : Html.Token → Bool
  | .startTag tag => Name.canonical tag.name == "body"
  | .endTag _ | .text _ | .comment _ => false

namespace Pass

/-! ### The log of a run -/

/-- The tokens of a run, each with the state in which it arrives. -/
def arrivals (setting : Setting) (pass : Pass) : List Html.Token → List (Pass × Html.Token)
  | [] => []
  | token :: tokens => (pass, token) :: arrivals setting (pass.step setting token) tokens

/-- Whether a token is the start tag of a body and stands outside dropped content, any head apart
that it ends. -/
def reachesBody (pass : Pass) (token : Html.Token) : Bool :=
  isBodyTag token && !(pass.settle token).discarding

/-- An end tag closes the frames of a stack down to the one that it stands for. -/
def through (name : String) (frames : List Frame) : List Event :=
  (frames.takeWhile fun frame => !frame.closedBy name).flatMap
      (Frame.supplied (.mismatchedClose · name)) ++
    (frames.find? (·.closedBy name)).toList.flatMap Frame.named

/-- What a token closes, begins and reports. -/
def mends (pass : Pass) (token : Html.Token) : List Event :=
  match token with
  | .endTag written =>
    let name := Name.canonical written
    if Name.isVoid name then []
    else if pass.candidates.any (·.closedBy name) then through name pass.stack
    else if pass.discarding then []
    else [.report (.strayClose name)]
  | .startTag _ =>
    if pass.reachesBody token then
      if pass.bodyOpen then [.report .duplicateBody] else [.body]
    else []
  | .text _ | .comment _ => []

/-- What a token sends where no head is to be ended. -/
def sends (setting : Setting) (pass : Pass) (token : Html.Token) : List Event :=
  (pass.emits setting token).toList.map fun sent => .piece sent.1 sent.2

/-- What a token makes of the state that it arrives in. -/
def events (setting : Setting) (pass : Pass) (token : Html.Token) : List Event :=
  (pass.settle token).sends setting token ++ pass.mends token

/-- What the end of the document closes and reports. -/
def ending (pass : Pass) : List Event :=
  pass.stack.flatMap (Frame.supplied .unclosed) ++
    if pass.bodySeen then [] else [.report .missingBody]

/-- What a whole run writes and reports, the end of the document included. -/
def log (setting : Setting) (pass : Pass) (tokens : List Html.Token) : List Event :=
  (pass.arrivals setting tokens).flatMap (fun arrival => arrival.1.events setting arrival.2) ++
    (pass.run setting tokens).ending

/-! ### The log is what happens -/

/-- The outputs and the diagnostics of a pass are those of another with the events behind them, and
it has seen a body if the other has or one of the events begins it. -/
structure Shows (pass : Pass) (events : List Event) (after : Pass) : Prop where
  buffer (target : Target) : after.buffer target = pass.buffer target ++ textOf target events
  diagnostics : after.diagnostics = pass.diagnostics ++ diagnosticsOf events
  bodySeen : after.bodySeen = (pass.bodySeen || events.any Event.isBody)

variable {setting : Setting} {pass middle after : Pass}

theorem Shows.refl (pass : Pass) : Shows pass [] pass where
  buffer target := by simp [textOf]
  diagnostics := by simp [diagnosticsOf]
  bodySeen := by simp

theorem Shows.trans {events more : List Event} (first : Shows pass events middle)
    (second : Shows middle more after) : Shows pass (events ++ more) after where
  buffer target := by
    rw [second.buffer, first.buffer, String.append_assoc, textOf, textOf, textOf, List.map_append,
      String.join_append]
  diagnostics := by
    rw [second.diagnostics, first.diagnostics, List.append_assoc, diagnosticsOf, diagnosticsOf,
      diagnosticsOf, List.filterMap_append]
  bodySeen := by rw [second.bodySeen, first.bodySeen, List.any_append, Bool.or_assoc]

/-- What shows does not depend on the stack. -/
theorem Shows.stack {events : List Event} (shows : Shows pass events after) (stack : List Frame) :
    Shows pass events { after with stack } :=
  ⟨shows.buffer, shows.diagnostics, shows.bodySeen⟩

theorem shows_push (pass : Pass) (frame : Frame) : Shows pass [] (pass.push frame) :=
  (Shows.refl pass).stack (frame :: pass.stack)

theorem shows_report (pass : Pass) (diagnostic : Diagnostic) :
    Shows pass [.report diagnostic] (pass.report diagnostic) where
  buffer target := by simp [textOf, Event.textIn]
  diagnostics := rfl
  bodySeen := by simp [report, Event.isBody]

theorem shows_send (pass : Pass) (target : Target) (piece : Piece) :
    Shows pass [.piece target piece] (pass.write target piece.render) where
  buffer other := by simp [textOf, Event.textIn]
  diagnostics := by cases target <;> simp [write, diagnosticsOf, Event.diagnostic?]
  bodySeen := by simp [Event.isBody]

theorem shows_endTag (pass : Pass) (name : String) (target : Target) (named : Bool) :
    Shows pass [.close target name named] (pass.closeFrame (.element name target)) where
  buffer other := by simp [closeFrame, textOf, Event.textIn, endTag]
  diagnostics := by cases target <;> simp [closeFrame, write, diagnosticsOf, Event.diagnostic?]
  bodySeen := by simp [closeFrame, Event.isBody]

theorem shows_named (pass : Pass) (frame : Frame) :
    Shows pass frame.named (pass.closeFrame frame) := by
  cases frame with
  | element name target => exact shows_endTag pass name target true
  | discarded | document => exact .refl pass
  | body =>
    obtain ⟨buffer, diagnostics, bodySeen⟩ := Shows.refl pass
    exact ⟨buffer, diagnostics, bodySeen⟩

theorem shows_supplied (pass : Pass) (note : String → Diagnostic) (name : String)
    (target : Target) :
    Shows pass (Frame.supplied note (.element name target))
      ((pass.report (note name)).closeFrame (.element name target)) :=
  (shows_report pass (note name)).trans (shows_endTag _ name target false)

theorem shows_mismatched (pass : Pass) (found : String) (frame : Frame) :
    Shows pass (frame.supplied (.mismatchedClose · found))
      ((pass.reportMismatch found frame).closeFrame frame) := by
  cases frame with
  | element name target => exact shows_supplied pass (.mismatchedClose · found) name target
  | discarded name => exact shows_named pass (.discarded name)
  | body => exact shows_named pass .body
  | document => exact shows_named pass .document

theorem shows_unclosed (pass : Pass) (frame : Frame) :
    Shows pass (frame.supplied .unclosed) ((pass.reportUnclosed frame).closeFrame frame) := by
  cases frame with
  | element name target => exact shows_supplied pass .unclosed name target
  | discarded name => exact shows_named pass (.discarded name)
  | body => exact shows_named pass .body
  | document => exact shows_named pass .document

theorem shows_closeThrough (name : String) (frames : List Frame) (pass : Pass) :
    Shows pass (through name frames) (closeThrough name frames pass) := by
  induction frames generalizing pass with
  | nil => exact (Shows.refl pass).stack []
  | cons frame rest ih =>
    rw [through, closeThrough]
    cases closes : frame.closedBy name with
    | true =>
      rw [List.takeWhile_cons_of_neg (by simp [closes]), List.find?_cons_of_pos closes]
      simpa using (shows_named pass frame).stack rest
    | false =>
      rw [List.takeWhile_cons_of_pos (by simp [closes]), List.find?_cons_of_neg (by simp [closes]),
        List.flatMap_cons, List.append_assoc]
      exact (shows_mismatched pass name frame).trans (ih _)

theorem shows_closeAll (frames : List Frame) (pass : Pass) :
    Shows pass (frames.flatMap (Frame.supplied .unclosed)) (closeAll frames pass) := by
  induction frames generalizing pass with
  | nil => exact (Shows.refl pass).stack []
  | cons frame rest ih =>
    rw [List.flatMap_cons, closeAll]
    exact (shows_unclosed pass frame).trans (ih _)

theorem shows_closeTag (pass : Pass) (written : String) :
    Shows pass (pass.mends (.endTag written)) (pass.closeTag written) := by
  simp only [mends, closeTag]
  split
  · exact .refl pass
  split
  · exact shows_closeThrough _ _ pass
  split
  · exact .refl pass
  · exact shows_report pass _

theorem shows_openElement (setting : Setting) (pass : Pass) (name : String)
    (attributes : List (String × String)) (closed : Bool) :
    Shows pass [.piece pass.target (pass.tagPiece setting name attributes closed)]
      (pass.openElement setting name attributes closed) where
  buffer target := by
    rw [buffer_openElement]
    simp [textOf, Event.textIn]
  diagnostics := by
    cases closed <;> cases opened : pass.bodyOpen <;>
      simp [openElement, write, push, Pass.target, opened, diagnosticsOf, Event.diagnostic?]
  bodySeen := by cases closed <;> simp [openElement, push, Event.isBody]

theorem shows_openBody (setting : Setting) (pass : Pass) (attributes : List (String × String)) :
    Shows pass (if pass.bodyOpen then [.report .duplicateBody] else [.body])
      (pass.openBody setting attributes) := by
  cases opened : pass.bodyOpen with
  | true =>
    rw [openBody, if_pos opened, if_pos rfl]
    exact shows_report pass .duplicateBody
  | false =>
    rw [if_neg (by simp)]
    refine ⟨fun target => ?_, ?_, ?_⟩
    · simp [buffer_openBody, textOf, Event.textIn]
    · simp [openBody, opened, diagnosticsOf, Event.diagnostic?]
    · simp [openBody, opened, Event.isBody]

theorem shows_startTag (setting : Setting) (pass : Pass) (tag : Html.Tag) :
    Shows pass
      (pass.sends setting (.startTag tag) ++
        if isBodyTag (.startTag tag) && !pass.discarding then
          if pass.bodyOpen then [.report .duplicateBody] else [.body]
        else [])
      (pass.act setting (.startTag tag)) := by
  simp only [sends, act, emits, enter, isBodyTag]
  cases outside : pass.discarding with
  | true =>
    cases closesItself pass.inForeign tag with
    | true => simpa using Shows.refl pass
    | false => simpa using shows_push pass _
  | false =>
    simp only [Bool.false_eq_true, if_false]
    by_cases html : Name.canonical tag.name = "html"
    · rw [if_pos html, if_pos (.inl html)]
      simpa [html] using shows_push pass .document
    by_cases dropped : Name.canonical tag.name ∈ discardedElements
    · have other : Name.canonical tag.name ≠ "body" := by
        intro body
        rw [body] at dropped
        exact absurd dropped (by decide)
      rw [if_neg html, if_pos dropped, if_pos (.inr (.inl dropped))]
      cases tag.selfClosing with
      | true => simpa [other] using Shows.refl pass
      | false => simpa [other] using shows_push pass _
    by_cases body : Name.canonical tag.name = "body"
    · rw [if_neg html, if_neg dropped, if_pos body, if_pos (.inr (.inr body))]
      simpa [body] using shows_openBody setting pass tag.attributes
    · rw [if_neg html, if_neg dropped, if_neg body, if_neg (by simp [html, dropped, body])]
      simpa [body] using shows_openElement setting pass _ tag.attributes _

theorem shows_settle (pass : Pass) (token : Html.Token) : Shows pass [] (pass.settle token) := by
  rcases pass.settle_cases token with same | ⟨rest, _, left⟩
  · rw [same]
    exact .refl pass
  · rw [left]
    exact (Shows.refl pass).stack rest

@[simp] theorem bodyOpen_settle (pass : Pass) (token : Html.Token) :
    (pass.settle token).bodyOpen = pass.bodyOpen := by
  rcases pass.settle_cases token with same | ⟨_, _, left⟩
  · rw [same]
  · rw [left]

theorem shows_act (setting : Setting) (pass : Pass) (token : Html.Token) :
    Shows (pass.settle token) (pass.events setting token)
      ((pass.settle token).act setting token) := by
  cases token with
  | startTag tag =>
    simpa [events, mends, reachesBody] using shows_startTag setting (pass.settle _) tag
  | endTag written =>
    have nothing : pass.sends setting (.endTag written) = [] := by simp [sends, emits]
    rw [events, settle, nothing, List.nil_append, act]
    exact shows_closeTag pass written
  | text piece =>
    simp only [events, sends, emits, mends, act]
    split
    · simpa using Shows.refl _
    · exact shows_send (pass.settle (.text piece)) _ (.leaf (.text piece))
  | comment text =>
    simp only [events, sends, emits, mends, act, comment]
    cases inside : (pass.settle (.comment text)).discarding with
    | true => simpa using Shows.refl _
    | false =>
      cases setting.options.keepComments with
      | false => simpa using Shows.refl _
      | true => exact shows_send (pass.settle (.comment text)) _ (.leaf (.comment text))

theorem shows_step (setting : Setting) (pass : Pass) (token : Html.Token) :
    Shows pass (pass.events setting token) (pass.step setting token) := by
  rw [step_eq]
  exact (shows_settle pass token).trans (shows_act setting pass token)

theorem shows_run (setting : Setting) (pass : Pass) (tokens : List Html.Token) :
    Shows pass
      ((pass.arrivals setting tokens).flatMap fun arrival => arrival.1.events setting arrival.2)
      (pass.run setting tokens) := by
  induction tokens generalizing pass with
  | nil => exact .refl pass
  | cons token tokens ih =>
    rw [arrivals, List.flatMap_cons]
    exact (shows_step setting pass token).trans (ih _)

theorem isBody_supplied (note : String → Diagnostic) (frames : List Frame) :
    (frames.flatMap (Frame.supplied note)).any Event.isBody = false := by
  rw [List.any_flatMap, List.any_eq_false]
  intro frame _
  cases frame <;> simp [Frame.supplied, Event.isBody]

theorem shows_closed (pass : Pass) : Shows pass pass.ending pass.closed := by
  have all := shows_closeAll pass.stack pass
  have same : (closeAll pass.stack pass).bodySeen = pass.bodySeen := by
    rw [all.bodySeen, isBody_supplied, Bool.or_false]
  simp only [ending, closed, same]
  cases pass.bodySeen with
  | true => simpa using all
  | false => exact all.trans (shows_report _ .missingBody)

theorem shows_log (setting : Setting) (pass : Pass) (tokens : List Html.Token) :
    Shows pass (pass.log setting tokens) (pass.run setting tokens).closed :=
  (shows_run setting pass tokens).trans (shows_closed _)

end Pass

end JsxPages.Document
