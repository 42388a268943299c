import JsxPages.Proofs.Document.Forest
import JsxPages.Proofs.Options
import JsxPages.Proofs.Tables.Starts
import JsxPages.Proofs.Text.Ascii
/-!
# What the tables hold and the markup does not show

The tables record what a start tag refers to when the tag is met, and only the end of the document
tells which of the two outputs is shown and which body counts. So an entry may come from a tag that
is not shown: one of the other output, or a body that another body replaces. These two are the only
ways (`entries_shown_or_dropped`): the entries behind any other tag stand in the markup.
-/

namespace JsxPages.Document

/-- A tag of the trees has this property. -/
def Forest.Has (forest : Forest) (property : Jsx.Attribute) : Prop :=
  ∃ piece ∈ forest.pieces, ∃ properties,
    piece.attributes? = some (Jsx.attributesText properties) ∧ property ∈ properties

namespace Pass

variable {setting : Setting} {pass : Pass}

/-- The output that is shown if the document ends here. -/
def shown (pass : Pass) : Target :=
  if pass.bodySeen then .main else .preBody

/-- The start tags of a document whose attributes are recorded and then not shown. -/
def dropped (setting : Setting) (tokens : List Html.Token) : List Start :=
  let starts := starts setting {} tokens
  starts.filter (·.place.any (· ≠ (run setting {} tokens).closed.shown)) ++
    (starts.filter (·.place = none)).dropLast

/-! ### The end of a document -/

theorem keeps_closeAll (frames : List Frame) (pass : Pass) : Keeps pass (closeAll frames pass) := by
  induction frames generalizing pass with
  | nil => exact ⟨rfl, rfl⟩
  | cons frame rest ih =>
    have reported : Keeps pass (pass.reportUnclosed frame) := by
      cases frame <;> exact ⟨rfl, rfl⟩
    exact (reported.trans (keeps_closeFrame _ frame)).trans (ih _)

theorem keeps_closed (pass : Pass) : Keeps pass pass.closed := by
  simp only [closed]
  split
  · exact keeps_closeAll pass.stack pass
  · exact (keeps_closeAll pass.stack pass).trans ⟨rfl, rfl⟩

theorem pieces_root (wrapperTag : String) (attributes : Option String) (content : Forest) :
    ∃ name, (root wrapperTag attributes content).pieces =
      .start name (attributes.getD "") :: content.pieces := by
  simp only [root]
  split
  · rename_i none
    exact ⟨"", by simp [Forest.pieces, none]⟩
  · exact ⟨wrapperTag, by simp [Forest.pieces]⟩

/-! ### Start tags that are shown -/

/-- The properties of a start tag that is not dropped stand in the markup. -/
theorem shown_or_dropped {tokens : List Html.Token} {content : Forest}
    (made : content.pieces =
      sentTo (run setting {} tokens).closed.shown (sent setting {} tokens))
    {start : Start} (isStart : start ∈ starts setting {} tokens) :
    (∀ property ∈ start.properties setting,
      (root setting.options.wrapperTag (run setting {} tokens).closed.bodyAttributes content).Has
        property) ∨
    start ∈ dropped setting tokens := by
  obtain ⟨name, pieces⟩ := pieces_root setting.options.wrapperTag
    (run setting {} tokens).closed.bodyAttributes content
  cases place : start.place with
  | some target =>
    by_cases here : target = (run setting {} tokens).closed.shown
    · left
      intro property mem
      obtain ⟨piece, isSent, attributes⟩ := exists_sent_iff.2 ⟨start, isStart, place, rfl⟩
      have isPiece : piece ∈ content.pieces := by
        rw [made]
        exact List.mem_filterMap.2 ⟨(target, piece), isSent, by simp [here]⟩
      refine ⟨piece, ?_, start.properties setting, attributes, mem⟩
      rw [pieces]
      exact List.mem_cons_of_mem _ isPiece
    · right
      refine List.mem_append_left _ (List.mem_filter.2 ⟨isStart, ?_⟩)
      simp [place, here]
  | none =>
    have isBody : start ∈ (starts setting {} tokens).filter (·.place = none) :=
      List.mem_filter.2 ⟨isStart, by simp [place]⟩
    obtain ⟨last, isLast⟩ := Option.isSome_iff_exists.1
      (List.getLast?_isSome.2 (List.ne_nil_of_mem isBody))
    rw [← List.dropLast_append_getLast? last isLast] at isBody
    rcases List.mem_append.1 isBody with replaced | kept
    · exact .inr (List.mem_append_right _ replaced)
    · left
      intro property mem
      obtain rfl := List.mem_singleton.1 kept
      have counts : (run setting {} tokens).closed.bodyAttributes = some (start.text setting) := by
        rw [(keeps_closed _).bodyAttributes, bodyAttributes_run, isLast]
        rfl
      rw [counts] at pieces ⊢
      refine ⟨.start name (start.text setting), ?_, start.properties setting, rfl, mem⟩
      rw [pieces]
      exact List.mem_cons_self

/-! ### Class names -/

theorem isClassStem_of_check {options : Options} (valid : options.check = .ok ()) :
    Options.isClassStem options.classStem = true :=
  (Options.check_eq_ok.1 valid).2.2

/-- The name of a class is one word. -/
theorem words_numbered {stem : String} (isStem : Options.isClassStem stem = true) (number : Nat) :
    Text.words (Name.numbered stem number) = [Name.numbered stem number] := by
  refine Text.words_eq_singleton (by simp [Name.numbered]) fun c mem => ?_
  have parts : (c ∈ stem.toList ∨ c = '-') ∨ c ∈ (Nat.repr number).toList := by
    simpa [Name.numbered, or_assoc] using mem
  rcases parts with (inStem | rfl) | inNumber
  · have others : (c.isAlphanum = true ∨ c = '-') ∨ c = '_' := by
      simp only [Options.isClassStem, Options.hasShape, Bool.and_eq_true,
        List.all_eq_true] at isStem
      simpa using isStem.2 c inStem
    rcases others with (alphanumeric | rfl) | rfl
    · exact Text.isBlank_of_isAlphanum alphanumeric
    · decide
    · decide
  · decide
  · have digit := Name.isDigit_of_mem_repr inNumber
    exact Text.isBlank_of_isAlphanum (by simp [Char.isAlphanum, digit])

end Pass

/-- **Only what is dropped leaves dead entries.** With fresh tables and valid options, every image
that a document imports stands in its markup as a `src` or `poster`, and every class among the
classes of a tag, except for those that come from a start tag of the output that is left out or from
a body that another body replaces. -/
theorem entries_shown_or_dropped (setting : Setting) (tokens : List Html.Token)
    (valid : setting.options.check = .ok ()) :
    let converted := convertTokens setting tokens {}
    let dropped := Pass.dropped setting tokens
    ∃ markup : Forest,
      converted.1.jsx =
        (if setting.options.normalizeOutput then Jsx.normalize markup.render else markup.render) ∧
      (∀ entry ∈ converted.2.images.entries,
        markup.Has ⟨"src", .expression entry.2⟩ ∨ markup.Has ⟨"poster", .expression entry.2⟩ ∨
        ∃ start ∈ dropped, ∃ step ∈ start.steps setting,
          step.Imports setting.assets setting.options entry.2) ∧
      (∀ entry ∈ converted.2.classes.classes,
        (∃ classes, entry.1 ∈ classes ∧
          markup.Has ⟨"className", .literal (" ".intercalate classes)⟩) ∨
        ∃ start ∈ dropped, ∃ step ∈ start.steps setting,
          step.Mints setting.assets setting.options entry.1) := by
  intro converted dropped
  let pass : Pass := {}
  let ended := (pass.run setting tokens).closed
  obtain ⟨content, made, rendered⟩ :=
    Pass.exists_forest_closed setting {} tokens ended.shown
  have threaded : Threaded setting {} (pass.starts setting tokens) converted.2 :=
    Pass.threaded_run setting pass tokens
  refine ⟨Pass.root setting.options.wrapperTag ended.bodyAttributes content, ?_, ?_, ?_⟩
  · rw [← Pass.wrap_render, ← rendered, Pass.shown, ← Pass.buffer_content]
    rfl
  · intro entry mem
    obtain ⟨start, isStart, step, isStep, imports⟩ := threaded.exists_start_of_image mem
    rcases Pass.shown_or_dropped made isStart with shown | isDropped
    · have has := shown _ (Start.mem_properties_of_imports isStep imports)
      rcases Attribute.isImage_cases imports.1 with src | poster
      · exact .inl (src ▸ has)
      · exact .inr (.inl (poster ▸ has))
    · exact .inr (.inr ⟨start, isDropped, step, isStep, imports⟩)
  · intro entry mem
    obtain ⟨start, isStart, step, isStep, mints⟩ := threaded.exists_start_of_class mem
    rcases Pass.shown_or_dropped made isStart with shown | isDropped
    · obtain ⟨property, given⟩ := Start.className_of_mints isStep mints
      have oneWord : Text.words entry.1 = [entry.1] := by
        rw [mints.backed.2.1]
        exact Pass.words_numbered (Pass.isClassStem_of_check valid) _
      exact .inl ⟨start.classes setting, given entry.1 (by simp [oneWord]), shown _ property⟩
    · exact .inr ⟨start, isDropped, step, isStep, mints⟩

/-- A body in which nothing is dropped. -/
def pictured : List Html.Token :=
  [.startTag ⟨"body", [], false⟩, .startTag ⟨"img", [("src", "/a.png")], false⟩,
    .startTag ⟨"p", [("style", "--x:1")], false⟩]

theorem entries_shown_or_dropped_pictured :
    ({} : Setting).options.check = .ok () ∧
      ∃ markup : Forest,
        (convertTokens {} pictured {}).1.jsx = markup.render ∧
        (markup.Has ⟨"src", .expression "a"⟩ ∨ markup.Has ⟨"poster", .expression "a"⟩) ∧
        ∃ classes, "custom-var-1" ∈ classes ∧
          markup.Has ⟨"className", .literal (" ".intercalate classes)⟩ := by
  have valid : ({} : Setting).options.check = .ok () := by decide +kernel
  have nothing : Pass.dropped {} pictured = [] := by decide +kernel
  have image : ("a.png", "a") ∈ (convertTokens {} pictured {}).2.images.entries := by
    decide +kernel
  have minted : ("custom-var-1", [("--x", "1")]) ∈
      (convertTokens {} pictured {}).2.classes.classes := by decide +kernel
  obtain ⟨markup, jsx, images, classes⟩ := entries_shown_or_dropped {} pictured valid
  refine ⟨valid, markup, jsx, ?_, ?_⟩
  · simpa [nothing] using images _ image
  · simpa [nothing] using classes _ minted

/-- An image in front of the body is imported, though what stands there is left out. -/
theorem convert_image_in_front_of_body :
    let conversion := convert {} "<img src=\"/a.png\"><body><p>x</p></body>"
    conversion.jsx = "<><p>x</p></>" ∧
      conversion.tables.images.entries = [("a.png", "a")] ∧
      conversion.importStatements = "import a from './images-flat/a.png';\n" := by
  decide +kernel

end JsxPages.Document
