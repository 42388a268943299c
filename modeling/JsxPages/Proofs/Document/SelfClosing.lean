import JsxPages.Proofs.Document.Dropped
/-!
# Tags that are written as closing themselves

Outside drawings and formulas no tag closes itself but those of void elements, and a mark that says
so is ignored, with two exceptions (`selfClosing_ignored_iff`). A tag that drops its element opens
nothing if it has the mark, except in dropped content, where every tag opens. And behind a tag with
the mark everything is read as markup, wherever the tag stands. So the text of a program becomes
text of the page, and the text of an input field becomes elements.
-/

namespace JsxPages

/-- The tag with the mark, or without it. -/
def Html.Tag.marked (tag : Tag) (selfClosing : Bool) : Tag :=
  { tag with selfClosing }

namespace Document.Pass

variable {pass : Pass} {tag : Html.Tag}

theorem push_ne_self (pass : Pass) (frame : Frame) : pass.push frame ≠ pass := by
  intro same
  have lengths := congrArg (fun state => state.stack.length) same
  simp [push] at lengths

theorem inForeign_settle (pass : Pass) (token : Html.Token) :
    (pass.settle token).inForeign = pass.inForeign := by
  rcases pass.settle_cases token with same | ⟨rest, top, left⟩
  · rw [same]
  · simp [left, inForeign, top, Frame.isForeign]

/-- The mark counts for a tag that drops its element, outside dropped content. -/
theorem act_marked (setting : Setting) (plain : pass.inForeign = false)
    (notVoid : Name.isVoid (Name.canonical tag.name) = false)
    (notForeign : isForeignName (Name.canonical tag.name) = false) :
    pass.act setting (.startTag (tag.marked true)) =
      if pass.discarding = false ∧ Name.canonical tag.name ∈ discardedElements then pass
      else pass.act setting (.startTag (tag.marked false)) := by
  have opens (mark : Bool) : closesItself pass.inForeign (tag.marked mark) = false := by
    simp [closesItself, Html.Tag.marked, notVoid, notForeign, plain]
  have acts (mark : Bool) : pass.act setting (.startTag (tag.marked mark)) =
      pass.enter setting (Name.canonical tag.name) (tag.marked mark) false := by
    rw [act, opens]
    rfl
  rw [acts, acts]
  cases inside : pass.discarding with
  | true => simp [enter, inside]
  | false =>
    by_cases dropped : Name.canonical tag.name ∈ discardedElements
    · have notHtml := (dropped_names _ dropped).1
      simp [enter, inside, dropped, notHtml, Html.Tag.marked]
    · simp [enter, inside, dropped, Html.Tag.marked]

theorem act_marked_eq_iff (setting : Setting) (plain : pass.inForeign = false)
    (notVoid : Name.isVoid (Name.canonical tag.name) = false)
    (notForeign : isForeignName (Name.canonical tag.name) = false) :
    pass.act setting (.startTag (tag.marked true)) =
        pass.act setting (.startTag (tag.marked false)) ↔
      (Name.canonical tag.name ∈ discardedElements → pass.discarding = true) := by
  rw [act_marked setting plain notVoid notForeign]
  constructor
  · intro same dropped
    cases inside : pass.discarding with
    | true => rfl
    | false =>
      have pushes : pass.act setting (.startTag (tag.marked false)) =
          pass.push (.discarded (Name.canonical tag.name)) := act_dropped setting pass dropped rfl
      rw [if_pos ⟨inside, dropped⟩, pushes] at same
      exact absurd same.symm (push_ne_self pass _)
  · intro inside
    rw [if_neg]
    rintro ⟨outside, dropped⟩
    rw [inside dropped] at outside
    cases outside

end Document.Pass

theorem Html.RawKind.after_marked_eq_iff (tag : Tag) :
    after (tag.marked true) = after (tag.marked false) ↔ ofName? tag.name = none := by
  simp [after, Tag.marked, eq_comm]

namespace Document

/-- **Where the mark is ignored.** Outside drawings and formulas, a start tag that is not void and
begins neither has the same effect with the mark and without it if and only if it does not drop its
element or stands in dropped content, a head apart that it ends; and its content is read in the same
way if and only if it is markup without the mark. -/
theorem selfClosing_ignored_iff (setting : Setting) (pass : Pass) (tag : Html.Tag)
    (plain : ∀ name target, Frame.element name target ∈ pass.stack → isForeignName name = false)
    (notVoid : Name.isVoid (Name.canonical tag.name) = false)
    (notForeign : isForeignName (Name.canonical tag.name) = false) :
    (pass.step setting (.startTag (tag.marked true)) =
        pass.step setting (.startTag (tag.marked false)) ↔
      (Name.canonical tag.name ∈ discardedElements →
        (pass.settle (.startTag tag)).discarding = true)) ∧
    (Html.RawKind.after (tag.marked true) = Html.RawKind.after (tag.marked false) ↔
      Html.RawKind.ofName? tag.name = none) := by
  refine ⟨?_, Html.RawKind.after_marked_eq_iff tag⟩
  have outside : (pass.settle (.startTag tag)).inForeign = false := by
    rw [Pass.inForeign_settle, Pass.inForeign, List.any_eq_false]
    intro frame mem
    cases frame with
    | element name target => simpa [Frame.isForeign, isForeignName] using plain name target mem
    | discarded | body | document => simp [Frame.isForeign]
  rw [Pass.step_eq, Pass.step_eq]
  exact Pass.act_marked_eq_iff setting outside notVoid notForeign

theorem selfClosing_ignored_iff_inHead :
    let pass : Pass := { stack := [.discarded "head", .element "p" .preBody], preBody := "<p>" }
    let program : Html.Tag := ⟨"script", [], true⟩
    let paragraph : Html.Tag := ⟨"p", [("id", "a")], true⟩
    (∀ name target, Frame.element name target ∈ pass.stack → isForeignName name = false) ∧
      pass.step {} (.startTag (program.marked true)) =
        pass.step {} (.startTag (program.marked false)) ∧
      Html.RawKind.after (program.marked true) ≠ Html.RawKind.after (program.marked false) ∧
      pass.step {} (.startTag (paragraph.marked true)) =
        pass.step {} (.startTag (paragraph.marked false)) := by
  intro pass program paragraph
  have plain : ∀ name target, Frame.element name target ∈ pass.stack →
      isForeignName name = false := by
    intro name target mem
    obtain ⟨rfl, -⟩ : name = "p" ∧ target = .preBody := by simpa [pass] using mem
    decide
  have isProgram : Name.canonical program.name = "script" := by decide +kernel
  have isParagraph : Name.canonical paragraph.name = "p" := by decide +kernel
  have dropped := (selfClosing_ignored_iff {} pass program plain (by rw [isProgram]; decide)
    (by rw [isProgram]; decide)).1
  have written := (selfClosing_ignored_iff {} pass paragraph plain (by rw [isParagraph]; decide)
    (by rw [isParagraph]; decide)).1
  have stays : (pass.settle (.startTag program)).discarding = true := by
    rw [Pass.settle, isProgram]
    decide
  refine ⟨plain, dropped.2 fun _ => stays, by decide, written.2 fun drops => ?_⟩
  rw [isParagraph] at drops
  exact absurd drops (by decide)

/-- With the mark the text of a program is shown, and the text of an input field is an element. -/
theorem convert_selfClosing :
    (convert {} "<script>run()</script><p>x</p>").jsx = "<><p>x</p></>" ∧
      (convert {} "<script/>run()</script><p>x</p>").jsx = "<>run()<p>x</p></>" ∧
      (convert {} "<textarea><b>x</b></textarea>").jsx =
        "<><textarea>&lt;b&gt;x&lt;/b&gt;</textarea></>" ∧
      (convert {} "<textarea/><b>x</b></textarea>").jsx =
        "<><textarea><b>x</b></textarea></>" := by
  decide +kernel

end Document

end JsxPages
