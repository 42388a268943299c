import JsxPages.Proofs.Document.Complete
import JsxPages.Proofs.Document.Reports
import JsxPages.Proofs.Tables.Starts
/-!
# A head that is left open

A head without its end tag ends in front of the body, if it is on top of the stack then. So what
stands in the head must leave nothing open over it. Blank text and comments leave nothing, nor do
elements that are complete (`stack_of_isComplete`), nor start tags of void elements. But of the
elements that stand in a head by their start tag alone two are not void: such a tag opens an
element, the body is dropped with it, and the page is lost (`accepts_body_iff`).
-/

namespace JsxPages.Document

/-- Elements of a head that are written with a start tag alone. -/
def metadataNames : List String :=
  ["base", "basefont", "bgsound", "link", "meta"]

/-- Those of them that are not void. -/
def unclosedNames : List String :=
  ["basefont", "bgsound"]

/-- Elements of a head that are written with an end tag. -/
def headElementNames : List String :=
  ["title", "script", "style", "noscript", "template"]

theorem metadata_names :
    ∀ name ∈ metadataNames,
      (name ∈ headContent ∧ name ∉ discardedElements) ∧
        isForeignName name = false ∧ Name.isVoid name = decide (name ∉ unclosedNames) := by
  decide

theorem closesItself_metadata (foreign : Bool) {tag : Html.Tag}
    (named : Name.canonical tag.name ∈ metadataNames) :
    closesItself foreign tag = true ↔
      (Name.canonical tag.name ∈ unclosedNames → tag.selfClosing = true ∧ foreign = true) := by
  obtain ⟨_, notForeign, isVoid⟩ := metadata_names _ named
  rw [closesItself, notForeign, isVoid]
  by_cases unclosed : Name.canonical tag.name ∈ unclosedNames <;> simp [unclosed]

namespace Pass

/-- What stands in an open head, and the tags in it that are there without an end tag. -/
inductive HeadContent (setting : Setting) : Pass → List Html.Token → List Html.Tag → Prop where
  | nil (pass : Pass) : HeadContent setting pass [] []
  | blank {pass : Pass} {piece : String} {tokens : List Html.Token} {tags : List Html.Tag}
      (blank : Text.isAllBlank piece = true)
      (rest : HeadContent setting (pass.step setting (.text piece)) tokens tags) :
      HeadContent setting pass (.text piece :: tokens) tags
  | comment {pass : Pass} {text : String} {tokens : List Html.Token} {tags : List Html.Tag}
      (rest : HeadContent setting (pass.step setting (.comment text)) tokens tags) :
      HeadContent setting pass (.comment text :: tokens) tags
  | metadata {pass : Pass} {tag : Html.Tag} {tokens : List Html.Token} {tags : List Html.Tag}
      (named : Name.canonical tag.name ∈ metadataNames)
      (rest : HeadContent setting (pass.step setting (.startTag tag)) tokens tags) :
      HeadContent setting pass (.startTag tag :: tokens) (tag :: tags)
  | element {pass : Pass} {frame : Frame} {start : Html.Tag} {content : List Html.Token}
      {ending : String} {tokens : List Html.Token} {tags : List Html.Tag}
      (named : Name.canonical start.name ∈ headElementNames)
      (complete : pass.IsComplete setting frame start content ending)
      (rest : HeadContent setting (pass.run setting (elementTokens start content ending)) tokens
        tags) :
      HeadContent setting pass (elementTokens start content ending ++ tokens) tags

variable {setting : Setting} {pass : Pass}

theorem HeadContent.named {tokens : List Html.Token} {tags : List Html.Tag}
    (content : HeadContent setting pass tokens tags) :
    ∀ tag ∈ tags, Name.canonical tag.name ∈ metadataNames := by
  induction content with
  | nil => simp
  | blank _ _ ih | comment _ ih | element _ _ _ ih => exact ih
  | metadata named _ ih => exact List.forall_mem_cons.2 ⟨named, ih⟩

/-! ### The content of a head -/

theorem step_blank (inside : pass.discarding = true) {piece : String}
    (blank : Text.isAllBlank piece = true) : pass.step setting (.text piece) = pass := by
  rw [step_eq, settle, if_pos blank, act, if_pos inside]

theorem step_comment (inside : pass.discarding = true) (text : String) :
    pass.step setting (.comment text) = pass := by
  rw [step_eq, settle, act, comment, inside, Bool.true_or, if_pos rfl]

theorem discarding_of_kept (kept : ∀ frame ∈ pass.stack, frame.isDiscarded = false) :
    pass.discarding = false :=
  discarding_eq_false_iff.2 fun frame top => kept frame (List.mem_of_head? top)

/-- A head opens dropped content, unless its tag closes itself. -/
theorem step_head (setting : Setting) (kept : ∀ frame ∈ pass.stack, frame.isDiscarded = false)
    (head : Html.Tag) (isHead : Name.canonical head.name = "head") :
    pass.step setting (.startTag head) =
      if head.selfClosing then pass else pass.push (.discarded "head") := by
  have outside := discarding_of_kept kept
  rw [step_eq, settle_outside outside, act, isHead, enter, if_neg (by simp [outside]),
    if_neg (by decide), if_pos (by decide)]

/-- In an open head a stack grows by the tags that do not close themselves. -/
theorem stack_headContent {tokens : List Html.Token} {tags : List Html.Tag}
    (content : HeadContent setting pass tokens tags) (inside : pass.discarding = true)
    (foreign : Bool) (inForeign : pass.inForeign = foreign) :
    ∃ opened : List Frame, (∀ frame ∈ opened, ∃ name ∈ metadataNames, frame = .discarded name) ∧
      (pass.run setting tokens).stack = opened ++ pass.stack ∧
      (opened = [] ↔ ∀ tag ∈ tags, closesItself foreign tag = true) := by
  induction content with
  | nil pass => exact ⟨[], by simp, rfl, by simp⟩
  | blank blank rest ih =>
    rw [step_blank inside blank] at ih
    rw [run_cons, step_blank inside blank]
    exact ih inside inForeign
  | comment rest ih =>
    rw [step_comment inside] at ih
    rw [run_cons, step_comment inside]
    exact ih inside inForeign
  | @metadata pass tag tokens tags named rest ih =>
    have step := step_startTag_inside setting inside (metadata_names _ named).1.1
    rw [inForeign] at step
    rw [run_cons, List.forall_mem_cons]
    cases closes : closesItself foreign tag with
    | true =>
      rw [if_pos closes] at step
      rw [step] at ih ⊢
      obtain ⟨opened, metadata, stack, all⟩ := ih inside inForeign
      exact ⟨opened, metadata, stack, by simp [all]⟩
    | false =>
      rw [if_neg (by simp [closes])] at step
      rw [step] at ih ⊢
      obtain ⟨opened, metadata, stack, _⟩ := ih rfl inForeign
      refine ⟨opened ++ [.discarded (Name.canonical tag.name)], ?_, ?_, by simp⟩
      · rintro frame mem
        rcases List.mem_append.1 mem with later | first
        · exact metadata frame later
        · exact ⟨_, named, List.mem_singleton.1 first⟩
      · rw [stack, List.append_assoc]
        rfl
  | @element pass frame start content ending tokens tags named complete rest ih =>
    have same := stack_of_isComplete complete
    obtain ⟨opened, metadata, stack, all⟩ :=
      ih (by rw [discarding, same]; exact inside) (by rw [Pass.inForeign, same]; exact inForeign)
    exact ⟨opened, metadata, by rw [run_append, stack, same], all⟩

theorem stack_act_text (setting : Setting) (pass : Pass) (piece : String) :
    (pass.act setting (.text piece)).stack = pass.stack := by
  rw [act]
  split
  · rfl
  · exact stack_write pass _ _

theorem stack_act_comment (setting : Setting) (pass : Pass) (text : String) :
    (pass.act setting (.comment text)).stack = pass.stack := by
  rw [act, comment]
  split
  · rfl
  · exact stack_write pass _ _

/-- Outside a head what may stand in one leaves no dropped content open. -/
theorem kept_headContent {tokens : List Html.Token} {tags : List Html.Tag}
    (content : HeadContent setting pass tokens tags)
    (kept : ∀ frame ∈ pass.stack, frame.isDiscarded = false) :
    ∀ frame ∈ (pass.run setting tokens).stack, frame.isDiscarded = false := by
  induction content with
  | nil pass => exact kept
  | @blank pass piece _ _ _ _ ih =>
    rw [run_cons]
    refine ih ?_
    rwa [step_eq, settle_outside (discarding_of_kept kept), stack_act_text]
  | @comment pass text _ _ _ ih =>
    rw [run_cons]
    refine ih ?_
    rwa [step_eq, settle_outside (discarding_of_kept kept), stack_act_comment]
  | @metadata pass tag tokens tags named rest ih =>
    have outside := discarding_of_kept kept
    rw [run_cons]
    refine ih ?_
    rw [step_eq, settle_outside outside]
    rcases stack_act_startTag setting pass tag with same | ⟨frame, _, pushed⟩
    · rwa [same]
    rw [pushed]
    refine List.forall_mem_cons.2 ⟨?_, kept⟩
    cases frame with
    | element | body | document => rfl
    | discarded name =>
      exact absurd (dropped_of_stack_act outside pushed).1 (metadata_names _ named).1.2
  | element named complete rest ih =>
    rw [run_append]
    exact ih (by rwa [stack_of_isComplete complete])

/-! ### The body behind the head -/

/-- A body is accepted where no body is open, unless it is dropped. -/
theorem step_body_iff {body : Html.Tag} (isBody : Name.canonical body.name = "body")
    (closed : pass.bodyOpen = false) :
    ((pass.step setting (.startTag body)).bodyOpen = true ∧
        (pass.step setting (.startTag body)).bodyAttributes =
          some (Attribute.convert setting.assets setting.options setting.options.wrapperTag
            body.attributes pass.tables).1) ↔
      (pass.settle (.startTag body)).discarding = false := by
  have stillClosed : (pass.settle (.startTag body)).bodyOpen = false := by
    rw [bodyOpen_settle, closed]
  have tables := (keeps_settle pass (.startTag body)).tables
  cases inside : (pass.settle (.startTag body)).discarding with
  | true =>
    rw [step_eq, act, isBody, enter, inside, if_pos rfl]
    split <;> simp [push, closed]
  | false =>
    rw [step_of_reachesBody setting (by simp [reachesBody, isBodyTag, isBody, inside]), openBody,
      stillClosed, if_neg (by decide), tables]
    exact ⟨fun _ => rfl, fun _ => ⟨rfl, rfl⟩⟩

/-- A body behind an open head is dropped if anything is open over the head. -/
theorem discarding_settle_iff {body : Html.Tag} (isBody : Name.canonical body.name = "body")
    {opened rest : List Frame}
    (metadata : ∀ frame ∈ opened, ∃ name ∈ metadataNames, frame = .discarded name)
    (kept : ∀ frame ∈ rest, frame.isDiscarded = false)
    (stack : pass.stack = opened ++ .discarded "head" :: rest) :
    (pass.settle (.startTag body)).discarding = false ↔ opened = [] := by
  have leaves : pass.settle (.startTag body) = pass.leaveHead := by
    rw [settle, isBody, if_neg (by decide)]
  rw [leaves, leaveHead, stack]
  cases opened with
  | nil => exact ⟨fun _ => rfl, fun _ => discarding_of_kept kept⟩
  | cons frame opened =>
    obtain ⟨name, isMetadata, rfl⟩ := metadata frame List.mem_cons_self
    have notHead : name ≠ "head" := by
      rintro rfl
      exact absurd isMetadata (by decide)
    simp [discarding, stack, Frame.isDiscarded, notHead]

end Pass

/-- **A head that is left open.** Behind what may stand in a head, a body is accepted, with its
attributes, if and only if the head tag closes itself or no `basefont` or `bgsound` in the head
leaves an element open. Such a tag closes itself in a drawing or a formula only. -/
theorem accepts_body_iff (setting : Setting) (pass : Pass) (head body : Html.Tag)
    (content : List Html.Token) (tags : List Html.Tag)
    (outside : ∀ frame ∈ pass.stack, frame.isDiscarded = false)
    (isHead : Name.canonical head.name = "head") (isBody : Name.canonical body.name = "body")
    (stands : Pass.HeadContent setting (pass.step setting (.startTag head)) content tags)
    (closed : (pass.run setting (.startTag head :: content)).bodyOpen = false) :
    let before := pass.run setting (.startTag head :: content)
    let after := before.step setting (.startTag body)
    let attributes := Attribute.convert setting.assets setting.options setting.options.wrapperTag
      body.attributes before.tables
    (after.bodyOpen = true ∧ after.bodyAttributes = some attributes.1) ↔
      (head.selfClosing = true ∨ ∀ tag ∈ tags, Name.canonical tag.name ∈ unclosedNames →
        tag.selfClosing = true ∧ pass.inForeign = true) := by
  intro before after attributes
  refine (Pass.step_body_iff isBody closed).trans ?_
  have closes := forall₂_congr fun tag mem =>
    closesItself_metadata pass.inForeign (stands.named tag mem)
  have step := Pass.step_head setting outside head isHead
  rw [Pass.run_cons]
  cases flagged : head.selfClosing with
  | true =>
    rw [flagged, if_pos rfl] at step
    rw [step] at stands
    have kept := Pass.discarding_of_kept (Pass.kept_headContent stands outside)
    rw [step, Pass.settle_outside kept]
    exact ⟨fun _ => .inl rfl, fun _ => kept⟩
  | false =>
    rw [flagged, if_neg (by decide)] at step
    rw [step] at stands
    obtain ⟨opened, metadata, stack, all⟩ :=
      Pass.stack_headContent stands rfl pass.inForeign rfl
    rw [step, Pass.discarding_settle_iff isBody metadata outside stack, all, closes]
    exact ⟨.inr, fun leaves => leaves.resolve_left (by decide)⟩

/-- White space, a comment, a title and a start tag without an end tag. -/
def openHead (last : Html.Tag) : List Html.Token :=
  .text "\n" :: .comment "page" ::
    (elementTokens ⟨"title", [], false⟩ [.text "Home"] "title" ++ [.startTag last])

theorem Pass.headContent_openHead {setting : Setting} {pass : Pass}
    (inside : pass.discarding = true) {last : Html.Tag}
    (named : Name.canonical last.name ∈ metadataNames) :
    HeadContent setting pass (openHead last) [last] := by
  have isTitle : Name.canonical "title" = "title" := by decide +kernel
  have complete := isComplete_of_passes setting inside ⟨"title", [], false⟩ [.text "Home"] "title"
    (by rw [isTitle]; decide) (by rw [closesItself, isTitle]; rfl) rfl (by simp [Passes])
  refine .blank (by decide) ?_
  rw [step_blank inside (by decide)]
  refine .comment ?_
  rw [step_comment inside]
  exact .element (by rw [isTitle]; decide) complete (.metadata named (.nil _))

theorem accepts_body_iff_openHead :
    let head : Html.Tag := ⟨"head", [], false⟩
    let body : Html.Tag := ⟨"body", [("class", "x")], false⟩
    let metadata : Html.Tag := ⟨"meta", [("charset", "utf-8")], false⟩
    let sound : Html.Tag := ⟨"bgsound", [("src", "a.mid")], false⟩
    let before := fun last => Pass.run {} {} (.startTag head :: openHead last)
    let after := fun last => (before last).step {} (.startTag body)
    let accepted := fun last =>
      (after last).bodyOpen = true ∧ (after last).bodyAttributes = some " className=\"x\""
    (before metadata).bodyOpen = false ∧ (before sound).bodyOpen = false ∧
      accepted metadata ∧ ¬ accepted sound := by
  intro head body metadata sound before after accepted
  have same : ∀ name ∈ ["head", "body", "meta", "bgsound"], Name.canonical name = name := by
    decide +kernel
  have isHead := same "head" (by decide)
  have isBody := same "body" (by decide)
  have isMetadata : Name.canonical metadata.name = "meta" := same _ (by decide)
  have isSound : Name.canonical sound.name = "bgsound" := same _ (by decide)
  have inside : (({} : Pass).step {} (.startTag head)).discarding = true := by
    rw [Pass.step_head {} (by simp) head isHead]
    rfl
  have closed : (before metadata).bodyOpen = false ∧ (before sound).bodyOpen = false := by
    decide +kernel
  have text : ∀ last ∈ [metadata, sound], (Attribute.convert {} {} "div" body.attributes
      (before last).tables).1 = " className=\"x\"" := by
    decide +kernel
  have behindMetadata := accepts_body_iff {} {} head body (openHead metadata) [metadata] (by simp)
    isHead isBody (Pass.headContent_openHead inside (by rw [isMetadata]; decide)) closed.1
  have behindSound := accepts_body_iff {} {} head body (openHead sound) [sound] (by simp)
    isHead isBody (Pass.headContent_openHead inside (by rw [isSound]; decide)) closed.2
  refine ⟨closed.1, closed.2, ?_, ?_⟩
  · obtain ⟨opened, attributes⟩ := behindMetadata.2 (.inr (by simp [isMetadata, unclosedNames]))
    exact ⟨opened, attributes.trans (congrArg some (text metadata (by simp)))⟩
  · rintro ⟨opened, attributes⟩
    have converted := attributes.trans (congrArg some (text sound (by simp))).symm
    exact absurd (behindSound.1 ⟨opened, converted⟩) (by simp [isSound, unclosedNames])

/-- Behind a `bgsound` in an open head nothing of the page is left. -/
theorem convert_openHead :
    (convert {} "<head><meta charset=\"utf-8\"><body class=\"x\"><p>hi</p></body>").jsx =
        "<div className=\"x\"><p>hi</p></div>" ∧
      (convert {} "<head><bgsound src=\"a.mid\"><body class=\"x\"><p>hi</p></body>").jsx =
        "<></>" := by
  decide +kernel

end JsxPages.Document
