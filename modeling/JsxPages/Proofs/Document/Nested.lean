import JsxPages.Proofs.Document.Forest
/-!
# Well-nested content is kept

A body whose content is well nested is converted tree by tree: every element becomes an element of
its canonical name around its converted content, and nothing is reported. `Source` is such content
and gives its tokens; `Source.convert` is the conversion by recursion on the tree, which a pass, that
sees only one token after the other, has to agree with. Attributes are converted in document order,
each with the tables that those in front of it left.
-/

namespace JsxPages.Document

/-- Content by its tags: none, or a text or an element and the content behind it. -/
inductive Source where
  | nil
  | text (piece : String) (rest : Source)
  /-- An element that is complete with its start tag. -/
  | closed (tag : Html.Tag) (rest : Source)
  /-- An element with its start tag and the name in its end tag. -/
  | element (tag : Html.Tag) (ending : String) (children rest : Source)
  deriving DecidableEq, Repr

/-- Whether elements of this canonical name are written with their content. -/
def IsWritten (name : String) : Prop :=
  name ≠ "html" ∧ name ≠ "body" ∧ name ∉ discardedElements

instance (name : String) : Decidable (IsWritten name) :=
  inferInstanceAs (Decidable (_ ∧ _ ∧ _))

namespace Source

def tokens : Source → List Html.Token
  | nil => []
  | text piece rest => .text piece :: rest.tokens
  | closed tag rest => .startTag tag :: rest.tokens
  | element tag ending children rest =>
    .startTag tag :: (children.tokens ++ .endTag ending :: rest.tokens)

/-- Whether the tags of some content, which is foreign or not, fit each other. -/
def WellNested (foreign : Bool) : Source → Prop
  | nil => True
  | text _ rest => rest.WellNested foreign
  | closed tag rest =>
    IsWritten (Name.canonical tag.name) ∧ closesItself foreign tag = true ∧
      rest.WellNested foreign
  | element tag ending children rest =>
    let name := Name.canonical tag.name
    IsWritten name ∧ closesItself foreign tag = false ∧ Name.canonical ending = name ∧
      children.WellNested (isForeignName name || foreign) ∧ rest.WellNested foreign

instance decidableWellNested :
    (foreign : Bool) → (source : Source) → Decidable (source.WellNested foreign)
  | _, nil => .isTrue trivial
  | foreign, text _ rest => decidableWellNested foreign rest
  | foreign, closed _ rest =>
    have := decidableWellNested foreign rest
    inferInstanceAs (Decidable (_ ∧ _ ∧ _))
  | foreign, element tag _ children rest =>
    have := decidableWellNested (isForeignName (Name.canonical tag.name) || foreign) children
    have := decidableWellNested foreign rest
    inferInstanceAs (Decidable (_ ∧ _ ∧ _ ∧ _ ∧ _))

/-- The forest that some content is converted to, and the tables behind it. -/
def convert (setting : Setting) : Source → Tables → Forest × Tables
  | nil, tables => (.nil, tables)
  | text piece rest, tables =>
    let rest := rest.convert setting tables
    (.leaf (.text piece) rest.1, rest.2)
  | closed tag rest, tables =>
    let name := Name.canonical tag.name
    let start := Attribute.convert setting.assets setting.options name tag.attributes tables
    let rest := rest.convert setting start.2
    (.leaf (.element name start.1) rest.1, rest.2)
  | element tag _ children rest, tables =>
    let name := Name.canonical tag.name
    let start := Attribute.convert setting.assets setting.options name tag.attributes tables
    let children := children.convert setting start.2
    let rest := rest.convert setting children.2
    (.element name start.1 children.1 rest.1, rest.2)

end Source

namespace Pass

/-- The state behind a text in the current output, with other tables. -/
def wrote (pass : Pass) (text : String) (tables : Tables) : Pass :=
  { pass.write pass.target text with tables }

variable {setting : Setting} {pass : Pass}

theorem wrote_empty (pass : Pass) : pass.wrote "" pass.tables = pass := by
  rcases pass with ⟨_, _, _ | _, _, _, _, _, _⟩ <;> simp [wrote, write, target]

theorem wrote_wrote (pass : Pass) (first second : String) (tables later : Tables) :
    (pass.wrote first tables).wrote second later = pass.wrote (first ++ second) later := by
  cases opened : pass.bodyOpen <;> simp [wrote, write, target, opened, String.append_assoc]

theorem wrote_write (pass : Pass) (first second : String) (tables : Tables) :
    (pass.wrote first tables).write pass.target second = pass.wrote (first ++ second) tables := by
  cases opened : pass.bodyOpen <;> simp [wrote, write, target, opened, String.append_assoc]

theorem wrote_push (pass : Pass) (frame : Frame) (text : String) (tables : Tables) :
    (pass.push frame).wrote text tables = (pass.wrote text tables).push frame := by
  cases opened : pass.bodyOpen <;> simp [wrote, write, target, push, opened]

@[simp] theorem stack_wrote (pass : Pass) (text : String) (tables : Tables) :
    (pass.wrote text tables).stack = pass.stack :=
  stack_write pass _ _

theorem discarding_wrote (pass : Pass) (text : String) (tables : Tables) :
    (pass.wrote text tables).discarding = pass.discarding := by
  simp [discarding]

theorem inForeign_wrote (pass : Pass) (text : String) (tables : Tables) :
    (pass.wrote text tables).inForeign = pass.inForeign := by
  simp [inForeign]

theorem inForeign_push (pass : Pass) (name : String) (target : Target) :
    (pass.push (.element name target)).inForeign = (isForeignName name || pass.inForeign) :=
  rfl

/-! ### The tokens of an element -/

theorem step_text (outside : pass.discarding = false) (piece : String) :
    pass.step setting (.text piece) = pass.wrote (Jsx.escapeText piece) pass.tables := by
  rw [step_eq, settle_outside outside, act, if_neg (by simp [outside])]
  cases opened : pass.bodyOpen <;> simp [wrote, write, target, opened]

theorem step_startTag {tag : Html.Tag} (outside : pass.discarding = false)
    (written : IsWritten (Name.canonical tag.name)) :
    pass.step setting (.startTag tag) =
      pass.openElement setting (Name.canonical tag.name) tag.attributes
        (closesItself pass.inForeign tag) := by
  obtain ⟨html, body, kept⟩ := written
  rw [step_eq, settle_outside outside, act, enter, if_neg (by simp [outside]), if_neg html,
    if_neg kept, if_neg body]

theorem openElement_closed (pass : Pass) (name : String) (attributes : List (String × String)) :
    pass.openElement setting name attributes true =
      let start := Attribute.convert setting.assets setting.options name attributes pass.tables
      pass.wrote (Leaf.element name start.1).render start.2 := by
  cases opened : pass.bodyOpen <;>
    simp [openElement, wrote, write, target, opened, Leaf.render]

theorem openElement_opened (pass : Pass) (name : String) (attributes : List (String × String)) :
    pass.openElement setting name attributes false =
      let start := Attribute.convert setting.assets setting.options name attributes pass.tables
      (pass.wrote (Piece.start name start.1).render start.2).push (.element name pass.target) := by
  cases opened : pass.bodyOpen <;>
    simp [openElement, wrote, write, target, opened, push, Piece.render]

theorem step_endTag {name ending : String} {target : Target}
    (same : Name.canonical ending = name) (notVoid : Name.isVoid name = false) :
    (pass.push (.element name target)).step setting (.endTag ending) =
      pass.write target (endTag name) := by
  have candidates : (pass.push (.element name target)).candidates =
      .element name target :: pass.stack := rfl
  rw [step, closeTag, same, if_neg (by simp [notVoid]), candidates,
    if_pos (by simp [Frame.closedBy])]
  cases target <;> simp [push, closeThrough, Frame.closedBy, closeFrame, write, endTag]

/-- **Well-nested content is converted tree by tree.** -/
theorem run_tokens (source : Source) (outside : pass.discarding = false) {foreign : Bool}
    (inForeign : pass.inForeign = foreign) (nested : source.WellNested foreign) :
    pass.run setting source.tokens =
      pass.wrote (source.convert setting pass.tables).1.render
        (source.convert setting pass.tables).2 := by
  induction source generalizing pass foreign with
  | nil => exact (wrote_empty pass).symm
  | text piece rest ih =>
    rw [Source.tokens, run_cons, step_text outside,
      ih ((discarding_wrote ..).trans outside) ((inForeign_wrote ..).trans inForeign) nested,
      wrote_wrote]
    rfl
  | closed tag rest ih =>
    obtain ⟨written, closes, nested⟩ := nested
    rw [Source.tokens, run_cons, step_startTag outside written, inForeign, closes,
      openElement_closed,
      ih ((discarding_wrote ..).trans outside) ((inForeign_wrote ..).trans inForeign) nested,
      wrote_wrote]
    rfl
  | element tag ending children rest inner outer =>
    obtain ⟨written, opens, same, nestedInner, nestedOuter⟩ := nested
    have notVoid : Name.isVoid (Name.canonical tag.name) = false :=
      (Bool.or_eq_false_iff.1 opens).1
    -- the start tag, the children with its frame on the stack, the end tag, what is behind
    rw [Source.tokens, run_cons, step_startTag outside written, inForeign, opens,
      openElement_opened, run_append,
      inner rfl (by rw [inForeign_push, inForeign_wrote, inForeign]) nestedInner, wrote_push,
      wrote_wrote, run_cons, step_endTag same notVoid, wrote_write,
      outer ((discarding_wrote ..).trans outside) ((inForeign_wrote ..).trans inForeign) nestedOuter,
      wrote_wrote]
    rfl

/-! ### The body around the content -/

theorem canonical_body : Name.canonical "body" = "body" := by decide +kernel

theorem step_body (setting : Setting) (tables : Tables) (attributes : List (String × String)) :
    step setting { tables } (.startTag ⟨"body", attributes, false⟩) =
      openBody setting { tables } attributes := by
  rw [step_eq, settle_outside rfl, act, canonical_body, enter, if_neg (by simp [discarding]),
    if_neg (by decide), if_neg (by decide), if_pos rfl]

theorem step_endBody {pass : Pass} (stack : pass.stack = [.body]) :
    pass.step setting (.endTag "body") = { pass with stack := [], bodyOpen := false } := by
  have candidates : pass.candidates = [.body] := by
    simp [candidates, discarding, stack, Frame.isDiscarded]
  rw [step, closeTag, canonical_body, if_neg (by decide), candidates, if_pos (by rfl), stack]
  rfl

end Pass

def Source.inBody (attributes : List (String × String)) (source : Source) : List Html.Token :=
  .startTag ⟨"body", attributes, false⟩ :: (source.tokens ++ [.endTag "body"])

/-- **A body with well-nested content** is converted to the wrapper around that content, element by
element; the tables are those behind the last attribute, and nothing is reported. -/
theorem convertTokens_inBody (setting : Setting) (tables : Tables)
    (attributes : List (String × String)) (source : Source) (nested : source.WellNested false)
    (plain : setting.options.normalizeOutput = false) :
    let body :=
      Attribute.convert setting.assets setting.options setting.options.wrapperTag attributes tables
    let content := source.convert setting body.2
    convertTokens setting (source.inBody attributes) tables =
      ({ jsx := (Pass.root setting.options.wrapperTag (some body.1) content.1).render
         diagnostics := [] },
        content.2) := by
  intro body content
  let entered : Pass :=
    { tables := body.2
      bodyAttributes := some body.1
      bodySeen := true
      bodyOpen := true
      stack := [.body] }
  have begun : Pass.step setting { tables } (.startTag ⟨"body", attributes, false⟩) = entered :=
    Pass.step_body setting tables attributes
  have inner : Pass.run setting entered source.tokens =
      entered.wrote content.1.render content.2 := Pass.run_tokens source rfl rfl nested
  have read : Pass.run setting { tables } (source.inBody attributes) =
      { entered.wrote content.1.render content.2 with stack := [], bodyOpen := false } := by
    have top : (entered.wrote content.1.render content.2).stack = [.body] := by simp [entered]
    rw [Source.inBody, Pass.run_cons, begun, Pass.run_append, inner]
    rw [Pass.run_cons, Pass.step_endBody top]
    rfl
  rw [convertTokens, read]
  simp [entered, Pass.wrote, Pass.write, Pass.target, Pass.finish, Pass.closed, Pass.closeAll,
    Pass.content, plain, Pass.wrap_render]

/-- A drawing, in which tags may close themselves, beside a paragraph, whose tag may not. -/
def drawingAndText : Source :=
  .element ⟨"svg", [], false⟩ "svg" (.closed ⟨"svg:clippath", [], true⟩ .nil)
    (.element ⟨"p", [], true⟩ "x:p" (.text "a<b" (.closed ⟨"br", [], false⟩ .nil)) .nil)

theorem convertTokens_inBody_drawing :
    drawingAndText.WellNested false ∧
      convertTokens {} (drawingAndText.inBody []) {} =
        ({ jsx := "<><svg><clipPath /></svg><p>a&lt;b<br /></p></>", diagnostics := [] }, {}) := by
  have nested : drawingAndText.WellNested false := by decide +kernel
  refine ⟨nested, (convertTokens_inBody {} {} [] drawingAndText nested rfl).trans ?_⟩
  decide +kernel

end JsxPages.Document
