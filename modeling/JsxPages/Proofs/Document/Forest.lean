import JsxPages.Proofs.Document.Edit
import Mathlib.Tactic.Choose
/-!
# What is written is a forest

An output is written piece by piece, and its end tags come from frames of a stack that both outputs
share. Still each output is the rendering of a forest: every element that is begun is ended once,
inside the element it was begun in and in the same output. The forest holds what the tokens sent to
that output and nothing else, in the order of the tokens.

While a pass runs, an output is a forest that still grows: the elements that are open, the innermost
first, each with the trees in front of it, and the trees behind the innermost start tag. The names of
the open elements are those on the stack that belong to the output, which is what every edit keeps.
-/

namespace JsxPages.Document

/-- Trees beside each other: none, or one and the others behind it. -/
inductive Forest where
  | nil
  | leaf (written : Leaf) (rest : Forest)
  | element (name attributes : String) (children rest : Forest)
  deriving DecidableEq, Repr

namespace Forest

/-- A forest as written. An element without a name is a fragment. -/
def render : Forest → String
  | nil => ""
  | leaf written rest => written.render ++ rest.render
  | element name attributes children rest =>
    (Piece.start name attributes).render ++ children.render ++ endTag name ++ rest.render

/-- What a forest is made of, each node in front of its children. -/
def pieces : Forest → List Piece
  | nil => []
  | leaf written rest => .leaf written :: rest.pieces
  | element name attributes children rest =>
    .start name attributes :: (children.pieces ++ rest.pieces)

def append : Forest → Forest → Forest
  | nil, other => other
  | leaf written rest, other => .leaf written (rest.append other)
  | element name attributes children rest, other =>
    .element name attributes children (rest.append other)

theorem render_append (forest other : Forest) :
    (forest.append other).render = forest.render ++ other.render := by
  induction forest with
  | nil => simp [append, render]
  | leaf written rest ih => simp only [append, render, ih, String.append_assoc]
  | element name attributes children rest _ ih =>
    simp only [append, render, ih, String.append_assoc]

theorem pieces_append (forest other : Forest) :
    (forest.append other).pieces = forest.pieces ++ other.pieces := by
  induction forest with
  | nil => rfl
  | leaf written rest ih => simp only [append, pieces, ih, List.cons_append]
  | element name attributes children rest _ ih =>
    simp only [append, pieces, ih, List.cons_append, List.append_assoc]

end Forest

/-! ### Growing forests -/

/-- An element that is begun, with the trees in front of it. -/
structure Begun where
  before : Forest
  name : String
  attributes : String

def growingText : List Begun → Forest → String
  | [], last => last.render
  | inner :: outer, last =>
    growingText outer inner.before ++ (Piece.start inner.name inner.attributes).render ++ last.render

def growingPieces : List Begun → Forest → List Piece
  | [], last => last.pieces
  | inner :: outer, last =>
    growingPieces outer inner.before ++ .start inner.name inner.attributes :: last.pieces

theorem growingText_append (begun : List Begun) (last more : Forest) :
    growingText begun (last.append more) = growingText begun last ++ more.render := by
  cases begun <;> simp only [growingText, Forest.render_append, String.append_assoc]

theorem growingPieces_append (begun : List Begun) (last more : Forest) :
    growingPieces begun (last.append more) = growingPieces begun last ++ more.pieces := by
  cases begun <;> simp [growingPieces, Forest.pieces_append]

def sentTo (target : Target) (sent : List (Target × Piece)) : List Piece :=
  sent.filterMap fun piece => if piece.1 = target then some piece.2 else none

namespace Pass

/-- An output holds a growing forest that is made of the pieces and whose open elements are those of
the stack. -/
def Grows (target : Target) (pieces : List Piece) (pass : Pass) : Prop :=
  ∃ begun last,
    begun.map Begun.name = pass.stack.filterMap (Frame.nameIn? target) ∧
    pass.buffer target = growingText begun last ∧
    pieces = growingPieces begun last

variable {setting : Setting} {pass after : Pass} {target : Target} {pieces : List Piece}

theorem Grows.congr (grows : Grows target pieces pass)
    (stack : after.stack.filterMap (Frame.nameIn? target) =
      pass.stack.filterMap (Frame.nameIn? target))
    (buffer : after.buffer target = pass.buffer target) : Grows target pieces after := by
  simpa only [Grows, stack, buffer] using grows

theorem Grows.send (grows : Grows target pieces pass) {written : Target} {piece : Piece}
    (stack : after.stack = piece.frames written ++ pass.stack)
    (buffer : after.buffer target =
      pass.buffer target ++ if written = target then piece.render else "") :
    Grows target (pieces ++ sentTo target [(written, piece)]) after := by
  by_cases here : written = target
  · subst here
    have only : sentTo written [(written, piece)] = [piece] := by simp [sentTo]
    obtain ⟨begun, last, names, text, rfl⟩ := grows
    rw [if_pos rfl, text] at buffer
    rw [only]
    cases piece with
    | leaf leaf =>
      refine ⟨begun, last.append (.leaf leaf .nil), ?_, ?_, ?_⟩
      · simpa [stack, Piece.frames] using names
      · simp [buffer, growingText_append, Forest.render, Piece.render]
      · simp [growingPieces_append, Forest.pieces]
    | start name attributes =>
      refine ⟨⟨last, name, attributes⟩ :: begun, .nil, ?_, ?_, ?_⟩
      · simp [stack, Piece.frames, Frame.nameIn?, names]
      · simp [buffer, growingText, Forest.render]
      · rfl
  · have other : pieces ++ sentTo target [(written, piece)] = pieces := by simp [sentTo, here]
    rw [other]
    refine grows.congr ?_ (by simp [buffer, here])
    cases piece <;> simp [stack, Piece.frames, Frame.nameIn?, here]

theorem Grows.closeTop (grows : Grows target pieces pass) {frame : Frame} {rest : List Frame}
    (top : pass.stack = frame :: rest) : Grows target pieces (pass.closeTop frame rest) := by
  obtain ⟨begun, last, names, text, rfl⟩ := grows
  have buffer := buffer_closeTop pass frame rest target
  rw [top] at names
  cases named : frame.nameIn? target with
  | none =>
    rw [List.filterMap_cons_none named] at names
    exact ⟨begun, last, names, by rw [buffer, named, text]; simp, rfl⟩
  | some name =>
    -- the end tag makes a tree of the innermost element and of all behind its start tag
    rw [List.filterMap_cons_some named] at names
    obtain ⟨inner, outer, rfl, rfl, others⟩ := List.map_eq_cons_iff.1 names
    refine ⟨outer, inner.before.append (.element inner.name inner.attributes last .nil), others,
      ?_, ?_⟩
    · rw [buffer, named, text, growingText_append]
      simp [growingText, Forest.render, String.append_assoc]
    · rw [growingPieces_append]
      simp [growingPieces, Forest.pieces]

theorem Grows.edit {piece : Option (Target × Piece)} (edit : Edit setting pass piece after)
    (grows : Grows target pieces pass) :
    Grows target (pieces ++ sentTo target piece.toList) after := by
  have nothing : pieces ++ sentTo target [] = pieces := List.append_nil pieces
  cases edit with
  | report diagnostic =>
    rw [Option.toList_none, nothing]
    exact grows.congr rfl (buffer_report pass diagnostic target)
  | close top =>
    rw [Option.toList_none, nothing]
    exact grows.closeTop top
  | discard name =>
    rw [Option.toList_none, nothing]
    exact grows.congr rfl (buffer_push pass _ target)
  | document outside =>
    rw [Option.toList_none, nothing]
    exact grows.congr rfl (buffer_push pass _ target)
  | body outside closed attributes =>
    rw [Option.toList_none, nothing]
    refine grows.congr ?_ (buffer_openBody setting pass attributes target)
    simp only [openBody, closed, Bool.false_eq_true, if_false]
    rfl
  | tag outside name attributes closed =>
    exact grows.send (stack_openElement setting pass name attributes closed)
      (buffer_openElement setting pass name attributes closed target)
  | text outside piece => exact grows.send (stack_write pass _ _) (buffer_write pass _ target _)
  | comment outside text => exact grows.send (stack_write pass _ _) (buffer_write pass _ target _)

theorem Grows.edits {sent : List (Target × Piece)} (edits : Edits setting pass sent after)
    (grows : Grows target pieces pass) : Grows target (pieces ++ sentTo target sent) after := by
  induction edits generalizing pieces with
  | refl => simpa [sentTo] using grows
  | head edit _ ih =>
    rw [sentTo, List.filterMap_append, ← List.append_assoc]
    exact ih (grows.edit edit)

theorem grows_initial (target : Target) (tables : Tables) : Grows target [] { tables } :=
  ⟨[], .nil, rfl, by cases target <;> rfl, rfl⟩

/-! ### The end of a document -/

theorem stack_closeAll (frames : List Frame) (pass : Pass) : (closeAll frames pass).stack = [] := by
  induction frames generalizing pass with
  | nil => rfl
  | cons frame rest ih => exact ih _

theorem stack_closed (pass : Pass) : pass.closed.stack = [] := by
  simp only [closed]
  split <;> exact stack_closeAll pass.stack pass

/-- With nothing open a growing forest is a forest. -/
theorem Grows.exists_forest (grows : Grows target pieces pass) (empty : pass.stack = []) :
    ∃ forest : Forest, forest.pieces = pieces ∧ pass.buffer target = forest.render := by
  obtain ⟨begun, last, names, text, rfl⟩ := grows
  rw [empty, List.filterMap_nil, List.map_eq_nil_iff] at names
  subst names
  exact ⟨last, rfl, text⟩

theorem exists_forest_closed (setting : Setting) (tables : Tables) (tokens : List Html.Token)
    (target : Target) :
    ∃ forest : Forest,
      forest.pieces = sentTo target (sent setting { tables } tokens) ∧
      (run setting { tables } tokens).closed.buffer target = forest.render := by
  have open' := (grows_initial target tables).edits (run_edits setting { tables } tokens)
  have closed' := open'.edits (closed_edits setting _)
  simpa [sentTo] using closed'.exists_forest (stack_closed _)

/-! ### The root -/

/-- Content inside one root: an element with the attributes of the body, or a fragment where there
are none. -/
def root (wrapperTag : String) (attributes : Option String) (content : Forest) : Forest :=
  let text := attributes.getD ""
  if text = "" then .element "" "" content .nil else .element wrapperTag text content .nil

theorem wrap_render (wrapperTag : String) (attributes : Option String) (content : Forest) :
    wrap wrapperTag attributes content.render = (root wrapperTag attributes content).render := by
  unfold wrap
  split
  · simp [root, Forest.render, Piece.render, endTag]
  · simp [root, Forest.render, Piece.render, endTag]
  · rename_i text notEmpty
    have some : text ≠ "" := fun empty => notEmpty (by rw [empty])
    simp [root, some, Forest.render, Piece.render, endTag, String.append_assoc]

theorem buffer_content (pass : Pass) :
    pass.content = pass.buffer (if pass.bodySeen then .main else .preBody) := by
  cases seen : pass.bodySeen <;> simp [content, seen, buffer]

/-- **Both outputs are forests** made of exactly the pieces that the tokens sent there, in their
order, whatever the tokens are; and the markup is one of these forests inside a single root. -/
theorem outputs_are_forests (setting : Setting) (tables : Tables) (tokens : List Html.Token)
    (plain : setting.options.normalizeOutput = false) :
    let ended := (run setting { tables } tokens).closed
    ∃ forest : Target → Forest,
      (∀ target, (forest target).pieces = sentTo target (sent setting { tables } tokens)) ∧
      (∀ target, ended.buffer target = (forest target).render) ∧
      ((run setting { tables } tokens).finish setting).jsx =
        (root setting.options.wrapperTag ended.bodyAttributes
          (forest (if ended.bodySeen then .main else .preBody))).render := by
  intro ended
  choose forest made rendered using exists_forest_closed setting tables tokens
  refine ⟨forest, made, rendered, ?_⟩
  rw [← wrap_render, ← rendered, ← buffer_content]
  simp [finish, plain, ended]

/-- Inside the body an end tag for an element in front of the body, which it closes with all in
between. -/
def misnested : List Html.Token :=
  [.startTag ⟨"p", [], false⟩, .startTag ⟨"body", [], false⟩,
    .startTag ⟨"b", [], false⟩, .text "x", .endTag "p", .startTag ⟨"br", [], false⟩, .text "<"]

theorem outputs_are_forests_misnested :
    ({} : Setting).options.normalizeOutput = false ∧
      ∃ forest : Target → Forest,
        (forest .main).pieces = [.start "b" "", .leaf (.text "x")] ∧
        (forest .main).render = "<b>x</b>" ∧
        (forest .preBody).pieces =
          [.start "p" "", .leaf (.element "br" ""), .leaf (.text "<")] ∧
        (forest .preBody).render = "<p></p><br />&lt;" ∧
        ((run {} {} misnested).finish {}).jsx =
          (root "div" (some "") (forest .main)).render := by
  obtain ⟨forest, made, rendered, rooted⟩ := outputs_are_forests {} {} misnested rfl
  have seen : (run {} {} misnested).closed.bodySeen = true := by decide
  have attributes : (run {} {} misnested).closed.bodyAttributes = some "" := by decide
  rw [seen, attributes] at rooted
  refine ⟨rfl, forest, (made .main).trans ?_, (rendered .main).symm.trans ?_,
    (made .preBody).trans ?_, (rendered .preBody).symm.trans ?_, rooted⟩
  all_goals decide

end Pass

end JsxPages.Document
