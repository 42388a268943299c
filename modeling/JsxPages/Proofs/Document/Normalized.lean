import JsxPages.Proofs.Attribute.Emitted
import JsxPages.Proofs.Jsx.Text
import JsxPages.Proofs.Tables.Session
import JsxPages.Proofs.Tables.Shown
/-!
# Normalizing converted markup changes nothing

Normalizing is for markup written by hand: it looks for start tags in a text and knows nothing of
the trees that the text came from. On the markup of a document it finds the start tags that were
written, whatever stands in them and between them, and leaves each as it is
(`convertTokens_normalizing`). Text holds no `<`, no name begins behind the `<` of an end tag or of
a fragment, and behind that of a start tag stands a printed tag.

Three things could be read otherwise, and the start tags have to be without them (`Start.IsPlain`):
a tag whose name is not the name of a tag in markup, a hyphenated attribute that is no known one,
and a handler with a brace or a quote left open. So could a comment, so comments are left out.
-/

namespace JsxPages.Document

open Jsx (Kept isTagName kept_open kept_of_notMem kept_printed)

/-! ### Pieces -/

/-- A start tag that normalizing copies. -/
def IsStableTag (name attributes : String) : Prop :=
  isTagName name = true ∧ ∃ properties : List Jsx.Attribute,
    (∀ property ∈ properties, property.IsStable) ∧ attributes = Jsx.attributesText properties

def Piece.IsStable : Piece → Prop
  | .start name attributes => IsStableTag name attributes
  | .leaf (.element name attributes) => IsStableTag name attributes
  | .leaf (.text _) => True
  | .leaf (.comment _) => False

theorem IsStableTag.kept_start {name attributes : String} (stable : IsStableTag name attributes) :
    Kept (Piece.start name attributes).render.toList := by
  obtain ⟨isName, properties, each, rfl⟩ := stable
  exact kept_printed isName each false

theorem IsStableTag.kept_element {name attributes : String} (stable : IsStableTag name attributes) :
    Kept (Leaf.element name attributes).render.toList := by
  obtain ⟨isName, properties, each, rfl⟩ := stable
  exact kept_printed isName each true

theorem kept_leaf {leaf : Leaf} (stable : (Piece.leaf leaf).IsStable) :
    Kept leaf.render.toList := by
  cases leaf with
  | element name attributes => exact IsStableTag.kept_element stable
  | text piece => exact kept_of_notMem fun mem => Jsx.notMem_of_mem_escapeText mem (by decide)
  | comment content => exact stable.elim

theorem kept_endTag {name : String} (free : '<' ∉ name.toList) : Kept (endTag name).toList := by
  have whole : (endTag name).toList = '<' :: '/' :: (name.toList ++ ['>']) := by simp [endTag]
  rw [whole]
  exact kept_open (by decide) (by simp [free])

theorem kept_forest {forest : Forest} (stable : ∀ piece ∈ forest.pieces, piece.IsStable) :
    Kept forest.render.toList := by
  induction forest with
  | nil => exact Jsx.kept_nil
  | leaf written rest ih =>
    obtain ⟨first, others⟩ := List.forall_mem_cons.1 stable
    rw [Forest.render, String.toList_append]
    exact (kept_leaf first).append (ih others)
  | element name attributes children rest inner outer =>
    obtain ⟨first, others⟩ := List.forall_mem_cons.1 stable
    obtain ⟨inChildren, inRest⟩ := List.forall_mem_append.1 others
    rw [Forest.render, String.toList_append, String.toList_append, String.toList_append]
    exact (((IsStableTag.kept_start first).append (inner inChildren)).append
      (kept_endTag (Jsx.notMem_of_isTagName first.1))).append (outer inRest)

theorem kept_fragment {content : Forest} (kept : Kept content.render.toList) :
    Kept (Forest.element "" "" content .nil).render.toList := by
  have whole : (Forest.element "" "" content .nil).render.toList =
      "<>".toList ++ content.render.toList ++ "</>".toList := by
    simp [Forest.render, Piece.render, endTag]
  rw [whole]
  exact ((kept_open (c := '>') (by decide) (by decide)).append kept).append
    (kept_open (c := '/') (by decide) (by decide))

/-- Inside its root a forest is kept, too. -/
theorem kept_root {wrapperTag : String} {attributes : Option String} {content : Forest}
    (wrapper : ∀ text, attributes = some text → IsStableTag wrapperTag text)
    (stable : ∀ piece ∈ content.pieces, piece.IsStable) :
    Kept (Pass.root wrapperTag attributes content).render.toList := by
  simp only [Pass.root]
  split
  · exact kept_fragment (kept_forest stable)
  · rename_i notEmpty
    cases attributes with
    | none => exact absurd rfl notEmpty
    | some text =>
      have start : (Piece.start wrapperTag text).IsStable := wrapper text rfl
      exact kept_forest (by simpa [Forest.pieces] using List.forall_mem_cons.2 ⟨start, stable⟩)

/-! ### Start tags of a document -/

/-- What is asked of a start tag: a name that is read back if it is written, plain attributes. -/
structure Start.IsPlain (start : Start) : Prop where
  tag : start.place ≠ none → isTagName start.tag = true
  attributes : ∀ attr ∈ start.attributes, Attribute.IsPlain attr

instance (start : Start) : Decidable start.IsPlain :=
  decidable_of_iff ((start.place ≠ none → isTagName start.tag = true) ∧
      ∀ attr ∈ start.attributes, Attribute.IsPlain attr)
    ⟨fun plain => ⟨plain.1, plain.2⟩, fun plain => ⟨plain.tag, plain.attributes⟩⟩

variable {setting : Setting}

theorem Start.IsPlain.stable {start : Start} (plain : start.IsPlain)
    (bindable : start.tables.images.Bindable) (isName : isTagName start.tag = true) :
    IsStableTag start.tag (start.text setting) :=
  ⟨isName, start.properties setting, Attribute.properties_stable bindable plain.attributes, rfl⟩

theorem Threaded.bindable {before after : Tables} {starts : List Start}
    (threaded : Threaded setting before starts after) (bindable : before.images.Bindable) :
    (∀ start ∈ starts, start.tables.images.Bindable) ∧ after.images.Bindable := by
  induction threaded with
  | nil => exact ⟨by simp, bindable⟩
  | cons start _ ih =>
    have next : (start.after setting).images.Bindable :=
      Attribute.bindable_gatherFrom { tables := start.tables } bindable start.attributes
    obtain ⟨each, behind⟩ := ih next
    exact ⟨List.forall_mem_cons.2 ⟨bindable, each⟩, behind⟩

theorem bindable_recordAll {tables : Tables} (bindable : tables.images.Bindable)
    (calls : List Call) : (recordAll tables calls).images.Bindable := by
  induction calls generalizing tables with
  | nil => exact bindable
  | cons call calls ih => exact ih ((call.threaded tables).bindable bindable).2

/-- A wrapper has a name that is read back. -/
theorem isTagName_of_isWrapperTag {tag : String} (wrapper : Options.isWrapperTag tag = true) :
    isTagName tag = true := by
  obtain ⟨⟨c, rest, named, lower⟩, all⟩ := Options.hasShape_iff.1 wrapper
  rw [named] at all
  have inName : ∀ c : Char,
      (c.isLower || c.isDigit || c == '-') = true → Jsx.inTagName c = true := by
    intro c mem
    simp only [Bool.or_eq_true, beq_iff_eq] at mem
    rcases mem with (lower | digit) | rfl
    · simp [Jsx.inTagName, Text.isWord, Text.isAlphanum_of_isLower lower]
    · simp [Jsx.inTagName, Text.isWord, Text.isAlphanum_of_isDigit digit]
    · decide
  rw [isTagName, named]
  refine Bool.and_eq_true_iff.2 ⟨Text.isAlpha_of_isLower lower, List.all_eq_true.2 fun d mem => ?_⟩
  exact inName d (all d (List.mem_cons_of_mem _ mem))

namespace Pass

variable {pass : Pass}

theorem stable_tagPiece {name : String} {attributes : List (String × String)}
    (stable : IsStableTag name
      (Attribute.convert setting.assets setting.options name attributes pass.tables).1)
    (closed : Bool) : (pass.tagPiece setting name attributes closed).IsStable := by
  cases closed <;> exact stable

/-- What a token sends is the tag that it starts, text, or a comment that is to be kept. -/
theorem stable_emits (noComments : setting.options.keepComments = false) (token : Html.Token)
    (stable : ∀ start ∈ pass.start? setting token, start.place ≠ none →
      IsStableTag start.tag (start.text setting)) :
    ∀ sent ∈ pass.emits setting token, sent.2.IsStable := by
  intro sent mem
  unfold emits at mem
  split at mem
  · cases mem
  rename_i outside
  cases token with
  | startTag tag =>
    dsimp only at mem
    split at mem
    · cases mem
    · rename_i written
      obtain ⟨notHtml, kept, notBody⟩ := by simpa only [not_or] using written
      have isStart : pass.start? setting (.startTag tag) =
          some ⟨some pass.target, Name.canonical tag.name, tag.attributes, pass.tables⟩ := by
        simp [start?, outside, notHtml, kept, notBody]
      obtain rfl := Option.some.inj mem
      exact stable_tagPiece (stable _ isStart (by simp)) _
  | endTag name => cases mem
  | text piece =>
    obtain rfl := Option.some.inj mem
    trivial
  | comment text =>
    rw [noComments] at mem
    cases mem

theorem stable_sent (noComments : setting.options.keepComments = false)
    {tokens : List Html.Token}
    (stable : ∀ start ∈ pass.starts setting tokens, start.place ≠ none →
      IsStableTag start.tag (start.text setting)) :
    ∀ sent ∈ pass.sent setting tokens, sent.2.IsStable := by
  induction tokens generalizing pass with
  | nil => simp [sent]
  | cons token tokens ih =>
    obtain ⟨first, others⟩ := List.forall_mem_append.1 stable
    rw [sent]
    refine List.forall_mem_append.2 ⟨fun piece mem => ?_, ih others⟩
    exact stable_emits noComments token (fun start isStart => first start (by simpa using isStart))
      piece (by simpa using mem)

/-- The attributes of a body are written behind the name of the wrapper. -/
theorem tag_of_place {tokens : List Html.Token} {start : Start}
    (isStart : start ∈ pass.starts setting tokens) (place : start.place = none) :
    start.tag = setting.options.wrapperTag := by
  induction tokens generalizing pass with
  | nil => cases isStart
  | cons token tokens ih =>
    rcases List.mem_append.1 isStart with first | later
    · cases token with
      | startTag tag =>
        rw [Option.mem_toList] at first
        simp only [start?] at first
        split_ifs at first
        · obtain rfl := Option.some.inj first
          rfl
        · obtain rfl := Option.some.inj first
          cases place
      | endTag | text | comment => simp [start?] at first
    · exact ih later

/-- What normalizing is given is what it would return. -/
theorem kept_wrap {tables : Tables} (bindable : tables.images.Bindable)
    (accepted : setting.options.check = .ok ())
    (noComments : setting.options.keepComments = false) {tokens : List Html.Token}
    (plain : ∀ start ∈ starts setting { tables } tokens, start.IsPlain) :
    let ended := (run setting { tables } tokens).closed
    Kept (wrap setting.options.wrapperTag ended.bodyAttributes ended.content).toList := by
  intro ended
  have bound := ((threaded_run setting { tables } tokens).bindable bindable).1
  obtain ⟨content, made, rendered⟩ := exists_forest_closed setting tables tokens
    (if ended.bodySeen then .main else .preBody)
  have body := bodyAttributes_run setting { tables } tokens
  rw [← (keeps_closed _).bodyAttributes, Option.or_none] at body
  rw [buffer_content, rendered, wrap_render]
  -- the wrapper has the attributes of the last body, every other tag is a piece of its own
  refine kept_root (fun text given => ?_) fun piece mem => ?_
  · obtain ⟨start, isLast, rfl⟩ := Option.map_eq_some_iff.1 (body.symm.trans given)
    obtain ⟨isStart, place⟩ := List.mem_filter.1 (List.mem_of_getLast? isLast)
    have tag := tag_of_place isStart (by simpa using place)
    have named := isTagName_of_isWrapperTag (Options.check_eq_ok.1 accepted).1
    rw [← tag] at named ⊢
    exact (plain start isStart).stable (bound start isStart) named
  · rw [made] at mem
    obtain ⟨sent, isSent, there⟩ := List.mem_filterMap.1 mem
    obtain ⟨_, same⟩ := Option.ite_none_right_eq_some.1 there
    obtain rfl := Option.some.inj same
    refine stable_sent noComments (fun start isStart written => ?_) sent isSent
    have here := plain start isStart
    exact here.stable (bound start isStart) (here.tag written)

end Pass

/-- The same setting with or without normalizing. -/
def Setting.normalizing (setting : Setting) (on : Bool) : Setting :=
  { setting with options := { setting.options with normalizeOutput := on } }

theorem Pass.run_normalizing (setting : Setting) (on : Bool) (pass : Pass)
    (tokens : List Html.Token) :
    pass.run (setting.normalizing on) tokens = pass.run setting tokens :=
  rfl

theorem Pass.finish_normalizing {pass : Pass}
    (kept : Kept (wrap setting.options.wrapperTag pass.closed.bodyAttributes
      pass.closed.content).toList) :
    pass.finish (setting.normalizing true) = pass.finish (setting.normalizing false) :=
  congrArg (Markup.mk · pass.closed.diagnostics) (Jsx.normalize_of_kept kept)

/-- **Normalizing changes nothing in converted markup.** Whatever was converted with the tables
before, and whatever the tokens are: without comments, and with plain start tags, the markup and the
tables behind it are the same with normalizing and without it. -/
theorem convertTokens_normalizing (setting : Setting) (earlier : List Call)
    (tokens : List Html.Token) (accepted : setting.options.check = .ok ())
    (noComments : setting.options.keepComments = false)
    (plain : ∀ start ∈ Pass.starts setting { tables := recordAll {} earlier } tokens,
      start.IsPlain) :
    convertTokens (setting.normalizing true) tokens (recordAll {} earlier) =
      convertTokens (setting.normalizing false) tokens (recordAll {} earlier) := by
  have bindable : (recordAll {} earlier).images.Bindable :=
    bindable_recordAll Image.Imports.bindable_empty earlier
  have kept := Pass.kept_wrap bindable accepted noComments plain
  have finished := Pass.finish_normalizing kept
  simp only [convertTokens, Pass.run_normalizing, finished]

/-- Quotes, braces and tags in texts, in styles and in handlers. -/
def hardToRead : List Html.Token :=
  [.startTag ⟨"body", [("class", "a b"), ("onload", "javascript:say('\x7d')")], false⟩,
    .startTag ⟨"p", [("title", "<b class=\"x\">"), ("style", "content: '\x7d\"'; --x: 1")], false⟩,
    .text "<i tabindex='1'> \x7b",
    .startTag ⟨"input", [("disabled", "false"), ("aria-label", "\x7bx\x7d"),
      ("onclick", "go(\"/>\")"), ("http-equiv", "true")], false⟩,
    .startTag ⟨"img", [("src", "/a.jpg")], false⟩]

theorem convertTokens_normalizing_hardToRead :
    ({} : Options).check = .ok () ∧ ({} : Options).keepComments = false ∧
      (∀ start ∈ Pass.starts {} { tables := recordAll {} [picture] } hardToRead, start.IsPlain) ∧
      (convertTokens (Setting.normalizing {} true) hardToRead (recordAll {} [picture])).1.jsx =
        "<div onLoad=\x7b() => \x7b say('\x7d')\n\x7d\x7d className=\"a b\">" ++
          "<p title=\"<b class=&quot;x&quot;>\" " ++
          "style=\x7b\x7b content: '\\'\x7d\"\\'' \x7d\x7d className=\"custom-var-1\">" ++
          "&lt;i tabindex='1'&gt; &#123;<input disabled=\x7bfalse\x7d aria-label=\x7bx\x7d " ++
          "onClick=\x7b() => \x7b go(\"/>\")\n\x7d\x7d httpEquiv=\"true\" />" ++
          "<img src=\x7ba2\x7d /></p></div>" := by
  have accepted : ({} : Options).check = .ok () := by decide
  have plain : ∀ start ∈ Pass.starts {} { tables := recordAll {} [picture] } hardToRead,
      start.IsPlain := by decide +kernel
  have same := convertTokens_normalizing {} [picture] hardToRead accepted rfl plain
  exact ⟨accepted, rfl, plain, same ▸ by decide +kernel⟩

end JsxPages.Document
