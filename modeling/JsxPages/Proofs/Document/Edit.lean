import JsxPages.Document.Convert
/-!
# The edits that tokens make

Whatever a token does to a pass is a sequence of a few edits: something is reported, a frame is put
on the stack or closed, a piece is written. `Edit` lists them, each with what must hold before it and
with the piece that it sends to an output. `run_edits` takes a run apart into edits, so a property
that every edit keeps holds of every state that a pass can reach; the proofs about reachable states
know the pass only through the edits.

A token acts in two phases. It may first end a head that is still open (`settle`) and then does what
it does where no head is to be ended (`act`).
-/

namespace JsxPages.Document

/-- What is complete where it is written: an element without content, a text, a comment. -/
inductive Leaf where
  | element (name attributes : String)
  | text (piece : String)
  | comment (content : String)
  deriving DecidableEq, Repr

/-- What a token sends to an output, end tags apart. -/
inductive Piece where
  /-- The start tag of an element that is closed later. -/
  | start (name attributes : String)
  | leaf (written : Leaf)
  deriving DecidableEq, Repr

def Leaf.render : Leaf → String
  | .element name attributes => "<" ++ name ++ attributes ++ " />"
  | .text piece => Jsx.escapeText piece
  | .comment content => Jsx.comment content

def Piece.render : Piece → String
  | .start name attributes => "<" ++ name ++ attributes ++ ">"
  | .leaf written => written.render

def Piece.frames (target : Target) : Piece → List Frame
  | .start name _ => [.element name target]
  | .leaf _ => []

/-- Whether the content of an element is foreign. -/
def isForeignName (name : String) : Bool :=
  name == "svg" || name == "math"

/-- Whether a start tag, in foreign content or not, is a whole element. -/
def closesItself (foreign : Bool) (tag : Html.Tag) : Bool :=
  let name := Name.canonical tag.name
  Name.isVoid name || tag.selfClosing && (isForeignName name || foreign)

def endTag (name : String) : String :=
  "</" ++ name ++ ">"

/-- The name of an element that is written to an output. -/
def Frame.nameIn? (target : Target) : Frame → Option String
  | .element name written => if written = target then some name else none
  | .discarded _ | .body | .document => none

namespace Pass

def buffer (pass : Pass) : Target → String
  | .main => pass.main
  | .preBody => pass.preBody

/-! ### What writing leaves alone -/

@[simp] theorem stack_write (pass : Pass) (target : Target) (text : String) :
    (pass.write target text).stack = pass.stack := by
  cases target <;> rfl

@[simp] theorem bodyOpen_write (pass : Pass) (target : Target) (text : String) :
    (pass.write target text).bodyOpen = pass.bodyOpen := by
  cases target <;> rfl

@[simp] theorem bodySeen_write (pass : Pass) (target : Target) (text : String) :
    (pass.write target text).bodySeen = pass.bodySeen := by
  cases target <;> rfl

@[simp] theorem bodyAttributes_write (pass : Pass) (target : Target) (text : String) :
    (pass.write target text).bodyAttributes = pass.bodyAttributes := by
  cases target <;> rfl

@[simp] theorem buffer_write (pass : Pass) (target other : Target) (text : String) :
    (pass.write target text).buffer other =
      pass.buffer other ++ if target = other then text else "" := by
  cases target <;> cases other <;> simp [write, buffer]

/-! ### The two phases of a token -/

theorem run_cons (setting : Setting) (pass : Pass) (token : Html.Token)
    (tokens : List Html.Token) :
    pass.run setting (token :: tokens) = (pass.step setting token).run setting tokens :=
  rfl

theorem run_append (setting : Setting) (pass : Pass) (tokens more : List Html.Token) :
    pass.run setting (tokens ++ more) = (pass.run setting tokens).run setting more :=
  List.foldl_append

/-- The state in which a token acts: a head that the token cannot stand in is ended. -/
def settle (pass : Pass) : Html.Token → Pass
  | .startTag tag => if Name.canonical tag.name ∈ headContent then pass else pass.leaveHead
  | .text piece => if Text.isAllBlank piece then pass else pass.leaveHead
  | .endTag _ | .comment _ => pass

/-- What a token does where no head is to be ended. -/
def act (setting : Setting) (pass : Pass) : Html.Token → Pass
  | .startTag tag =>
    pass.enter setting (Name.canonical tag.name) tag (closesItself pass.inForeign tag)
  | .endTag name => pass.closeTag name
  | .text piece =>
    if pass.discarding then pass else pass.write pass.target (Jsx.escapeText piece)
  | .comment text => pass.comment setting text

theorem step_eq (setting : Setting) (pass : Pass) (token : Html.Token) :
    pass.step setting token = (pass.settle token).act setting token := by
  cases token <;> rfl

/-- A token takes at most one frame off the stack before it acts, and only an open head. -/
theorem settle_cases (pass : Pass) (token : Html.Token) :
    pass.settle token = pass ∨
      ∃ rest, pass.stack = .discarded "head" :: rest ∧
        pass.settle token = { pass with stack := rest } := by
  have leave : pass.leaveHead = pass ∨
      ∃ rest, pass.stack = .discarded "head" :: rest ∧
        pass.leaveHead = { pass with stack := rest } := by
    unfold leaveHead
    split
    · rename_i rest top
      exact .inr ⟨rest, top, rfl⟩
    · exact .inl rfl
  cases token with
  | startTag tag =>
    rw [settle]
    split
    · exact .inl rfl
    · exact leave
  | text piece =>
    rw [settle]
    split
    · exact .inl rfl
    · exact leave
  | endTag | comment => exact .inl rfl

/-- Without an open head on top of the stack a token acts where it arrives. -/
theorem settle_of_head?_ne {pass : Pass}
    (noHead : pass.stack.head? ≠ some (.discarded "head")) (token : Html.Token) :
    pass.settle token = pass := by
  rcases pass.settle_cases token with same | ⟨rest, top, _⟩
  · exact same
  · exact absurd (by rw [top]; rfl) noHead

theorem settle_outside {pass : Pass} (outside : pass.discarding = false) (token : Html.Token) :
    pass.settle token = pass := by
  refine settle_of_head?_ne ?_ token
  intro top
  simp [discarding, top, Frame.isDiscarded] at outside

def tagPiece (setting : Setting) (pass : Pass) (name : String)
    (attributes : List (String × String)) (closed : Bool) : Piece :=
  let text := (Attribute.convert setting.assets setting.options name attributes pass.tables).1
  if closed then .leaf (.element name text) else .start name text

/-- The piece that a token sends, and where to, if no head is to be ended. -/
def emits (setting : Setting) (pass : Pass) (token : Html.Token) : Option (Target × Piece) :=
  if pass.discarding then
    none
  else
    match token with
    | .startTag tag =>
      let name := Name.canonical tag.name
      if name = "html" ∨ name ∈ discardedElements ∨ name = "body" then
        none
      else
        let closed := closesItself pass.inForeign tag
        some (pass.target, pass.tagPiece setting name tag.attributes closed)
    | .text piece => some (pass.target, .leaf (.text piece))
    | .comment text =>
      if setting.options.keepComments then some (pass.target, .leaf (.comment text)) else none
    | .endTag _ => none

/-- The pieces that the tokens of a run send, and where to, in order. -/
def sent (setting : Setting) (pass : Pass) : List Html.Token → List (Target × Piece)
  | [] => []
  | token :: tokens =>
    ((pass.settle token).emits setting token).toList ++
      sent setting (pass.step setting token) tokens

/-! ### Edits -/

def closeTop (pass : Pass) (frame : Frame) (rest : List Frame) : Pass :=
  { pass.closeFrame frame with stack := rest }

/-- One edit of a pass, with the piece that it sends. -/
inductive Edit (setting : Setting) : Pass → Option (Target × Piece) → Pass → Prop where
  | report (pass : Pass) (diagnostic : Diagnostic) : Edit setting pass none (pass.report diagnostic)
  | close {pass : Pass} {frame : Frame} {rest : List Frame} (top : pass.stack = frame :: rest) :
      Edit setting pass none (pass.closeTop frame rest)
  | discard (pass : Pass) (name : String) : Edit setting pass none (pass.push (.discarded name))
  | document {pass : Pass} (outside : pass.discarding = false) :
      Edit setting pass none (pass.push .document)
  | body {pass : Pass} (outside : pass.discarding = false) (closed : pass.bodyOpen = false)
      (attributes : List (String × String)) :
      Edit setting pass none (pass.openBody setting attributes)
  | tag {pass : Pass} (outside : pass.discarding = false) (name : String)
      (attributes : List (String × String)) (closed : Bool) :
      Edit setting pass (some (pass.target, pass.tagPiece setting name attributes closed))
        (pass.openElement setting name attributes closed)
  | text {pass : Pass} (outside : pass.discarding = false) (piece : String) :
      Edit setting pass (some (pass.target, .leaf (.text piece)))
        (pass.write pass.target (Jsx.escapeText piece))
  | comment {pass : Pass} (outside : pass.discarding = false) (text : String) :
      Edit setting pass (some (pass.target, .leaf (.comment text)))
        (pass.write pass.target (Jsx.comment text))

inductive Edits (setting : Setting) : Pass → List (Target × Piece) → Pass → Prop where
  | refl (pass : Pass) : Edits setting pass [] pass
  | head {pass middle after : Pass} {piece : Option (Target × Piece)}
      {pieces : List (Target × Piece)} (edit : Edit setting pass piece middle)
      (edits : Edits setting middle pieces after) :
      Edits setting pass (piece.toList ++ pieces) after

/-! ### What an edit writes -/

@[simp] theorem buffer_report (pass : Pass) (diagnostic : Diagnostic) (target : Target) :
    (pass.report diagnostic).buffer target = pass.buffer target := by
  cases target <;> rfl

@[simp] theorem buffer_push (pass : Pass) (frame : Frame) (target : Target) :
    (pass.push frame).buffer target = pass.buffer target := by
  cases target <;> rfl

theorem buffer_closeTop (pass : Pass) (frame : Frame) (rest : List Frame) (target : Target) :
    (pass.closeTop frame rest).buffer target =
      pass.buffer target ++ (frame.nameIn? target).elim "" endTag := by
  rcases frame with ⟨name, _ | _⟩ | _ | _ | _ <;> cases target <;>
    simp [closeTop, closeFrame, write, buffer, Frame.nameIn?, endTag, String.append_assoc]

theorem buffer_openBody (setting : Setting) (pass : Pass) (attributes : List (String × String))
    (target : Target) : (pass.openBody setting attributes).buffer target = pass.buffer target := by
  unfold openBody
  split <;> cases target <;> rfl

theorem stack_openElement (setting : Setting) (pass : Pass) (name : String)
    (attributes : List (String × String)) (closed : Bool) :
    (pass.openElement setting name attributes closed).stack =
      (pass.tagPiece setting name attributes closed).frames pass.target ++ pass.stack := by
  cases closed <;> simp [openElement, tagPiece, Piece.frames, push, Pass.target]

theorem buffer_openElement (setting : Setting) (pass : Pass) (name : String)
    (attributes : List (String × String)) (closed : Bool) (target : Target) :
    (pass.openElement setting name attributes closed).buffer target =
      pass.buffer target ++
        if pass.target = target then (pass.tagPiece setting name attributes closed).render
        else "" := by
  cases closed <;> cases target <;> cases opened : pass.bodyOpen <;>
    simp [openElement, tagPiece, Piece.render, Leaf.render, write, push, buffer, Pass.target,
      opened, String.append_assoc]

variable {setting : Setting} {pass middle after : Pass}

/-- An edit only writes behind what an output holds. -/
theorem Edit.exists_buffer {piece : Option (Target × Piece)}
    (edit : Edit setting pass piece after) (target : Target) :
    ∃ text, after.buffer target = pass.buffer target ++ text := by
  cases edit with
  | report | discard | document => exact ⟨"", by simp⟩
  | close top => exact ⟨_, buffer_closeTop pass _ _ target⟩
  | body outside closed attributes => exact ⟨"", by simp [buffer_openBody]⟩
  | tag outside name attributes closed =>
    exact ⟨_, buffer_openElement setting pass name attributes closed target⟩
  | text | comment => exact ⟨_, buffer_write pass _ target _⟩

/-! ### Sequences of edits -/

theorem Edit.edits {piece : Option (Target × Piece)} (edit : Edit setting pass piece after) :
    Edits setting pass piece.toList after := by
  simpa using Edits.head edit (.refl after)

theorem Edits.trans {first second : List (Target × Piece)} (left : Edits setting pass first middle)
    (right : Edits setting middle second after) : Edits setting pass (first ++ second) after := by
  induction left with
  | refl => exact right
  | head edit _ ih =>
    rw [List.append_assoc]
    exact .head edit (ih right)

theorem Edits.keep {P : Pass → Prop} {pieces : List (Target × Piece)}
    (kept : ∀ {pass piece after}, Edit setting pass piece after → P pass → P after)
    (edits : Edits setting pass pieces after) (start : P pass) : P after := by
  induction edits with
  | refl => exact start
  | head edit _ ih => exact ih (kept edit start)

/-! ### From tokens to edits -/

theorem settle_edits (setting : Setting) (pass : Pass) (token : Html.Token) :
    Edits setting pass [] (pass.settle token) := by
  rcases pass.settle_cases token with same | ⟨rest, top, left⟩
  · rw [same]
    exact .refl pass
  · rw [left]
    exact (Edit.close top).edits

theorem closeFrame_stack (pass : Pass) (frame : Frame) (stack : List Frame) :
    closeFrame { pass with stack } frame = { pass.closeFrame frame with stack } := by
  rcases frame with ⟨_, _ | _⟩ | _ | _ | _ <;> rfl

theorem reportMismatch_stack (pass : Pass) (name : String) (frame : Frame) (stack : List Frame) :
    reportMismatch { pass with stack } name frame =
      { pass.reportMismatch name frame with stack } := by
  cases frame <;> rfl

theorem reportUnclosed_stack (pass : Pass) (frame : Frame) (stack : List Frame) :
    reportUnclosed { pass with stack } frame = { pass.reportUnclosed frame with stack } := by
  cases frame <;> rfl

/-- The stack that `closeThrough` is given counts, not the one of the pass. -/
theorem closeThrough_stack (name : String) (frames : List Frame) (pass : Pass)
    (stack : List Frame) :
    closeThrough name frames { pass with stack } = closeThrough name frames pass := by
  induction frames generalizing pass with
  | nil => rfl
  | cons frame rest ih =>
    simp only [closeThrough, closeFrame_stack, reportMismatch_stack, ih]

theorem closeAll_stack (frames : List Frame) (pass : Pass) (stack : List Frame) :
    closeAll frames { pass with stack } = closeAll frames pass := by
  induction frames generalizing pass with
  | nil => rfl
  | cons frame rest ih =>
    simp only [closeAll, closeFrame_stack, reportUnclosed_stack, ih]

theorem reportMismatch_edits (setting : Setting) (pass : Pass) (name : String) (frame : Frame) :
    Edits setting pass [] (pass.reportMismatch name frame) := by
  cases frame with
  | element expected target => exact (Edit.report pass _).edits
  | discarded | body | document => exact .refl pass

theorem reportUnclosed_edits (setting : Setting) (pass : Pass) (frame : Frame) :
    Edits setting pass [] (pass.reportUnclosed frame) := by
  cases frame with
  | element name target => exact (Edit.report pass _).edits
  | discarded | body | document => exact .refl pass

@[simp] theorem stack_reportMismatch (pass : Pass) (name : String) (frame : Frame) :
    (pass.reportMismatch name frame).stack = pass.stack := by
  cases frame <;> rfl

@[simp] theorem stack_reportUnclosed (pass : Pass) (frame : Frame) :
    (pass.reportUnclosed frame).stack = pass.stack := by
  cases frame <;> rfl

theorem closeThrough_edits (setting : Setting) (name : String) (frames : List Frame)
    (pass : Pass) (stack : pass.stack = frames) :
    Edits setting pass [] (closeThrough name frames pass) := by
  induction frames generalizing pass with
  | nil =>
    simp only [closeThrough, ← stack]
    exact .refl pass
  | cons frame rest ih =>
    simp only [closeThrough]
    split
    · exact (Edit.close stack).edits
    · have top : (pass.reportMismatch name frame).stack = frame :: rest := by simpa using stack
      have closed := (reportMismatch_edits setting pass name frame).trans (Edit.close top).edits
      -- the recursion keeps the stack it began with, an edit takes the frame off at once
      rw [← closeThrough_stack name rest _ rest]
      exact closed.trans (ih _ rfl)

theorem closeAll_edits (setting : Setting) (frames : List Frame) (pass : Pass)
    (stack : pass.stack = frames) : Edits setting pass [] (closeAll frames pass) := by
  induction frames generalizing pass with
  | nil =>
    simp only [closeAll, ← stack]
    exact .refl pass
  | cons frame rest ih =>
    have top : (pass.reportUnclosed frame).stack = frame :: rest := by simpa using stack
    have closed := (reportUnclosed_edits setting pass frame).trans (Edit.close top).edits
    simp only [closeAll]
    rw [← closeAll_stack rest _ rest]
    exact closed.trans (ih _ rfl)

theorem closeTag_edits (setting : Setting) (pass : Pass) (written : String) :
    Edits setting pass [] (pass.closeTag written) := by
  simp only [closeTag]
  split
  · exact .refl pass
  split
  · exact closeThrough_edits setting _ _ pass rfl
  split
  · exact .refl pass
  · exact (Edit.report pass _).edits

theorem enter_edits (setting : Setting) (pass : Pass) (tag : Html.Tag) :
    Edits setting pass (pass.emits setting (.startTag tag)).toList
      (pass.act setting (.startTag tag)) := by
  simp only [act, emits, enter]
  cases outside : pass.discarding with
  | true =>
    cases closesItself pass.inForeign tag with
    | true => exact .refl pass
    | false => exact (Edit.discard pass _).edits
  | false =>
    simp only [Bool.false_eq_true, if_false]
    by_cases html : Name.canonical tag.name = "html"
    · rw [if_pos html, if_pos (.inl html)]
      exact (Edit.document outside).edits
    by_cases dropped : Name.canonical tag.name ∈ discardedElements
    · rw [if_neg html, if_pos dropped, if_pos (.inr (.inl dropped))]
      cases tag.selfClosing with
      | true => exact .refl pass
      | false => exact (Edit.discard pass _).edits
    by_cases body : Name.canonical tag.name = "body"
    · rw [if_neg html, if_neg dropped, if_pos body, if_pos (.inr (.inr body))]
      cases opened : pass.bodyOpen with
      | false => exact (Edit.body outside opened tag.attributes).edits
      | true =>
        rw [openBody, if_pos opened]
        exact (Edit.report pass _).edits
    · rw [if_neg html, if_neg dropped, if_neg body, if_neg (by simp [html, dropped, body])]
      exact (Edit.tag outside _ tag.attributes _).edits

theorem act_edits (setting : Setting) (pass : Pass) (token : Html.Token) :
    Edits setting pass (pass.emits setting token).toList (pass.act setting token) := by
  cases token with
  | startTag tag => exact enter_edits setting pass tag
  | endTag name =>
    simp only [emits, ite_self]
    exact closeTag_edits setting pass name
  | text piece =>
    simp only [act, emits]
    split
    · exact .refl pass
    · rename_i inside
      exact (Edit.text (by simpa using inside) piece).edits
  | comment text =>
    simp only [act, emits, comment]
    cases inside : pass.discarding with
    | true => exact .refl pass
    | false =>
      cases setting.options.keepComments with
      | false => exact .refl pass
      | true => exact (Edit.comment inside text).edits

/-- **A run is a sequence of edits**, which send the pieces of its tokens. -/
theorem run_edits (setting : Setting) (pass : Pass) (tokens : List Html.Token) :
    Edits setting pass (pass.sent setting tokens) (pass.run setting tokens) := by
  induction tokens generalizing pass with
  | nil => exact .refl pass
  | cons token tokens ih =>
    have step := (settle_edits setting pass token).trans (act_edits setting _ token)
    rw [← step_eq, List.nil_append] at step
    exact step.trans (ih _)

/-- The end of a document only closes and reports. -/
theorem closed_edits (setting : Setting) (pass : Pass) : Edits setting pass [] pass.closed := by
  have all := closeAll_edits setting pass.stack pass rfl
  simp only [closed]
  split
  · exact all
  · exact all.trans (Edit.report _ _).edits

end Pass

end JsxPages.Document
