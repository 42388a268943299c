import JsxPages.Proofs.Document.Edit
import JsxPages.Proofs.Tables.Attributes
import JsxPages.Proofs.Text.Words
/-!
# What the start tags of a document record

A pass converts the attributes of the elements that it writes and of every body that it accepts; no
other token touches the tables. `Pass.starts` lists these start tags in order, each with the tables
that it was met with. The tables are threaded through them (`Threaded`): where one leaves off the
next begins. And their texts are what stands in the outputs: `sent_attributes` says so for the
elements, `bodyAttributes_run` for the body, whose attributes go to the wrapper and of which the
last counts.
-/

namespace JsxPages.Document

/-- A start tag whose attributes are converted. -/
structure Start where
  /-- The output that it is written to; none for a body, whose attributes go to the wrapper. -/
  place : Option Target
  tag : String
  attributes : List (String × String)
  /-- The tables in front of it. -/
  tables : Tables
  deriving DecidableEq

namespace Start

variable (setting : Setting) (start : Start)

def gathered : Attribute.Gathered :=
  Attribute.gather setting.assets setting.options start.tag start.attributes start.tables

def classes : List String :=
  (start.gathered setting).classes

def properties : List Jsx.Attribute :=
  (Attribute.properties setting.assets setting.options start.tag start.attributes start.tables).1

def text : String :=
  Jsx.attributesText (start.properties setting)

/-- The tables behind it. -/
def after : Tables :=
  (Attribute.convert setting.assets setting.options start.tag start.attributes start.tables).2

/-- Its attributes one by one. -/
def steps : List Attribute.Step :=
  Attribute.steps setting.assets setting.options start.tag start.attributes
    { tables := start.tables }

variable {setting start}

theorem grown_after : start.tables.Grown (start.after setting) :=
  (Attribute.grown_gatherFrom start.attributes { tables := start.tables }).tables

theorem sound_after (sound : start.tables.Sound) : (start.after setting).Sound :=
  Attribute.sound_gatherFrom start.attributes sound

/-- What a step gives is part of what the tag gives. -/
theorem grown_of_mem_steps {step : Attribute.Step} (mem : step ∈ start.steps setting) :
    (step.next setting.assets setting.options).Grown (start.gathered setting) :=
  (Attribute.grown_of_mem_steps mem).2

theorem mem_properties_of_imports {step : Attribute.Step} (mem : step ∈ start.steps setting)
    {identifier : String} (imports : step.Imports setting.assets setting.options identifier) :
    ⟨step.name, .expression identifier⟩ ∈ start.properties setting := by
  have added : ⟨step.name, .expression identifier⟩ ∈
      (step.next setting.assets setting.options).attributes := by
    rw [imports.2]
    simp
  exact List.mem_append_left _ ((grown_of_mem_steps mem).attributes.subset added)

/-- A tag for which a class is minted has the class. -/
theorem className_of_mints {step : Attribute.Step} (mem : step ∈ start.steps setting)
    {name : String} (mints : step.Mints setting.assets setting.options name) :
    ⟨"className", .literal (" ".intercalate (start.classes setting))⟩ ∈
        start.properties setting ∧
      ∀ word ∈ Text.words name, word ∈ start.classes setting := by
  obtain ⟨_, named, _, given⟩ := mints.backed
  have classes (word : String) (part : word ∈ Text.words name) : word ∈ start.classes setting :=
    (grown_of_mem_steps mem).classes.subset (given word part)
  have some : Text.words name ≠ [] :=
    Text.words_ne_nil (c := '-') (by simp [named, Name.numbered]) (by decide)
  obtain ⟨word, part⟩ := List.exists_mem_of_ne_nil _ some
  have notEmpty : (start.classes setting).isEmpty = false := by
    rw [List.isEmpty_eq_false_iff]
    exact List.ne_nil_of_mem (classes word part)
  have property : ⟨"className", .literal (" ".intercalate (start.classes setting))⟩ ∈
      Attribute.classAttribute (start.classes setting) := by
    rw [Attribute.classAttribute, notEmpty]
    exact List.mem_singleton_self _
  exact ⟨List.mem_append_right _ property, classes⟩

end Start

/-- Start tags of which each begins with the tables that the one in front of it leaves. -/
inductive Threaded (setting : Setting) : Tables → List Start → Tables → Prop where
  | nil (tables : Tables) : Threaded setting tables [] tables
  | cons (start : Start) {starts : List Start} {later : Tables}
      (rest : Threaded setting (start.after setting) starts later) :
      Threaded setting start.tables (start :: starts) later

namespace Threaded

variable {setting : Setting} {before after : Tables} {starts : List Start}

theorem grown (threaded : Threaded setting before starts after) : before.Grown after := by
  induction threaded with
  | nil => exact .refl _
  | cons start _ ih => exact start.grown_after.trans ih

theorem sound (threaded : Threaded setting before starts after) (sound : before.Sound) :
    after.Sound := by
  induction threaded with
  | nil => exact sound
  | cons start _ ih => exact ih (start.sound_after sound)

theorem grown_of_mem (threaded : Threaded setting before starts after) {start : Start}
    (mem : start ∈ starts) : (start.after setting).Grown after := by
  induction threaded with
  | nil => cases mem
  | cons first rest ih =>
    rcases List.mem_cons.1 mem with rfl | later
    · exact rest.grown
    · exact ih later

theorem exists_start (there : Tables → Prop) (found : Attribute.Step → Prop)
    (of_next : ∀ step : Attribute.Step, there (step.next setting.assets setting.options).tables →
      there step.gathered.tables ∨ found step)
    (threaded : Threaded setting before starts after) (behind : there after) :
    there before ∨ ∃ start ∈ starts, ∃ step ∈ start.steps setting, found step := by
  induction threaded with
  | nil => exact .inl behind
  | cons start rest ih =>
    rcases ih behind with earlier | ⟨other, later, isFound⟩
    · exact (Attribute.exists_step there found of_next earlier).imp_right
        fun isFound => ⟨start, List.mem_cons_self, isFound⟩
    · exact .inr ⟨other, List.mem_cons_of_mem _ later, isFound⟩

/-- With fresh tables every image behind some start tags is one that they refer to. -/
theorem exists_start_of_image (threaded : Threaded setting {} starts after)
    {entry : String × String} (mem : entry ∈ after.images.entries) :
    ∃ start ∈ starts, ∃ step ∈ start.steps setting,
      step.Imports setting.assets setting.options entry.2 := by
  have found := threaded.exists_start (fun tables => entry ∈ tables.images.entries)
    (fun step => step.Imports setting.assets setting.options entry.2)
    (fun _ => Attribute.Step.of_image) mem
  exact found.resolve_left List.not_mem_nil

/-- With fresh tables every class behind some start tags is one that was minted for them. -/
theorem exists_start_of_class (threaded : Threaded setting {} starts after)
    {entry : String × List (String × String)} (mem : entry ∈ after.classes.classes) :
    ∃ start ∈ starts, ∃ step ∈ start.steps setting,
      step.Mints setting.assets setting.options entry.1 := by
  have found := threaded.exists_start (fun tables => entry ∈ tables.classes.classes)
    (fun step => step.Mints setting.assets setting.options entry.1)
    (fun _ => Attribute.Step.of_class) mem
  exact found.resolve_left List.not_mem_nil

end Threaded

/-- The attributes in a piece. -/
def Piece.attributes? : Piece → Option String
  | .start _ attributes => some attributes
  | .leaf (.element _ attributes) => some attributes
  | .leaf (.text _) | .leaf (.comment _) => none

namespace Pass

/-- A token as a start tag whose attributes are converted, where no head is to be ended. -/
def start? (setting : Setting) (pass : Pass) : Html.Token → Option Start
  | .startTag tag =>
    let name := Name.canonical tag.name
    if pass.discarding ∨ name = "html" ∨ name ∈ discardedElements then none
    else if name = "body" then
      if pass.bodyOpen then none
      else some ⟨none, setting.options.wrapperTag, tag.attributes, pass.tables⟩
    else some ⟨some pass.target, name, tag.attributes, pass.tables⟩
  | .endTag _ | .text _ | .comment _ => none

/-- The start tags of a run whose attributes are converted. -/
def starts (setting : Setting) (pass : Pass) : List Html.Token → List Start
  | [] => []
  | token :: tokens =>
    ((pass.settle token).start? setting token).toList ++
      starts setting (pass.step setting token) tokens

variable {setting : Setting} {pass : Pass}

/-! ### Tokens that record nothing -/

/-- The tables and the attributes of the body are the same. -/
structure Keeps (pass after : Pass) : Prop where
  tables : after.tables = pass.tables
  bodyAttributes : after.bodyAttributes = pass.bodyAttributes

theorem Keeps.refl (pass : Pass) : Keeps pass pass :=
  ⟨rfl, rfl⟩

theorem Keeps.trans {middle after : Pass} (first : Keeps pass middle)
    (second : Keeps middle after) : Keeps pass after :=
  ⟨second.tables.trans first.tables, second.bodyAttributes.trans first.bodyAttributes⟩

theorem keeps_write (pass : Pass) (target : Target) (text : String) :
    Keeps pass (pass.write target text) := by
  cases target <;> exact ⟨rfl, rfl⟩

theorem keeps_settle (pass : Pass) (token : Html.Token) : Keeps pass (pass.settle token) := by
  rcases pass.settle_cases token with same | ⟨rest, _, left⟩
  · rw [same]
    exact .refl pass
  · rw [left]
    exact ⟨rfl, rfl⟩

theorem keeps_closeFrame (pass : Pass) (frame : Frame) : Keeps pass (pass.closeFrame frame) := by
  cases frame with
  | element name target => exact keeps_write pass target _
  | discarded | body | document => exact ⟨rfl, rfl⟩

theorem keeps_reportMismatch (pass : Pass) (name : String) (frame : Frame) :
    Keeps pass (pass.reportMismatch name frame) := by
  cases frame <;> exact ⟨rfl, rfl⟩

theorem keeps_closeThrough (name : String) (frames : List Frame) (pass : Pass) :
    Keeps pass (closeThrough name frames pass) := by
  induction frames generalizing pass with
  | nil => exact ⟨rfl, rfl⟩
  | cons frame rest ih =>
    simp only [closeThrough]
    split
    · exact ⟨(keeps_closeFrame pass frame).tables, (keeps_closeFrame pass frame).bodyAttributes⟩
    · exact ((keeps_reportMismatch pass name frame).trans (keeps_closeFrame _ frame)).trans (ih _)

theorem keeps_closeTag (pass : Pass) (written : String) : Keeps pass (pass.closeTag written) := by
  simp only [closeTag]
  split
  · exact .refl pass
  split
  · exact keeps_closeThrough _ _ pass
  split <;> exact ⟨rfl, rfl⟩

theorem keeps_text (pass : Pass) (piece : String) :
    Keeps pass (pass.act setting (.text piece)) := by
  simp only [act]
  split
  · exact .refl pass
  · exact keeps_write pass _ _

theorem keeps_comment (pass : Pass) (text : String) :
    Keeps pass (pass.act setting (.comment text)) := by
  simp only [act, comment]
  split
  · exact .refl pass
  · exact keeps_write pass _ _

/-! ### Start tags -/

/-- What a token does to the tables and to the attributes of the body. -/
inductive Converts (setting : Setting) (pass : Pass) (token : Html.Token) : Prop where
  | nothing (none : pass.start? setting token = none) (keeps : Keeps pass (pass.act setting token))
  | body (start : Start) (isStart : pass.start? setting token = some start)
      (place : start.place = none) (before : start.tables = pass.tables)
      (after : (pass.act setting token).tables = start.after setting)
      (attributes : (pass.act setting token).bodyAttributes = some (start.text setting))
  | element (start : Start) (isStart : pass.start? setting token = some start) (target : Target)
      (place : start.place = some target) (before : start.tables = pass.tables)
      (after : (pass.act setting token).tables = start.after setting)
      (attributes : (pass.act setting token).bodyAttributes = pass.bodyAttributes)

theorem openElement_keeps (setting : Setting) (pass : Pass) (name : String)
    (attributes : List (String × String)) (closed : Bool) :
    (pass.openElement setting name attributes closed).tables =
        (Attribute.convert setting.assets setting.options name attributes pass.tables).2 ∧
      (pass.openElement setting name attributes closed).bodyAttributes = pass.bodyAttributes := by
  simp only [openElement]
  generalize Attribute.convert _ _ _ _ _ = converted
  split
  · exact ⟨(keeps_write _ _ _).tables, (keeps_write _ _ _).bodyAttributes⟩
  · exact ⟨(keeps_write _ _ _).tables, (keeps_write _ _ _).bodyAttributes⟩

theorem converts_startTag (setting : Setting) (pass : Pass) (tag : Html.Tag) :
    pass.Converts setting (.startTag tag) := by
  by_cases dropped : pass.discarding = true ∨ Name.canonical tag.name = "html" ∨
      Name.canonical tag.name ∈ discardedElements
  · refine .nothing (by simp only [start?, dropped, if_true]) ?_
    simp only [act, enter]
    split
    · split <;> exact ⟨rfl, rfl⟩
    split
    · exact ⟨rfl, rfl⟩
    split
    · split <;> exact ⟨rfl, rfl⟩
    · exact absurd dropped (by simp_all)
  have starts : pass.start? setting (.startTag tag) =
      if Name.canonical tag.name = "body" then
        if pass.bodyOpen then none
        else some ⟨none, setting.options.wrapperTag, tag.attributes, pass.tables⟩
      else some ⟨some pass.target, Name.canonical tag.name, tag.attributes, pass.tables⟩ := by
    simp only [start?, dropped, if_false]
  obtain ⟨outside, notHtml, kept⟩ := by simpa only [not_or] using dropped
  have acts : pass.act setting (.startTag tag) =
      if Name.canonical tag.name = "body" then pass.openBody setting tag.attributes
      else pass.openElement setting (Name.canonical tag.name) tag.attributes
        (closesItself pass.inForeign tag) := by
    simp only [act, enter, outside, notHtml, kept, if_false]
    rfl
  by_cases body : Name.canonical tag.name = "body"
  · rw [if_pos body] at starts acts
    rw [openBody] at acts
    cases opened : pass.bodyOpen with
    | true =>
      rw [if_pos opened] at starts acts
      exact .nothing starts (by rw [acts]; exact ⟨rfl, rfl⟩)
    | false =>
      rw [if_neg (by simp [opened])] at starts acts
      exact .body _ starts rfl rfl (by rw [acts]; rfl) (by rw [acts]; rfl)
  · rw [if_neg body] at starts acts
    obtain ⟨after, attributes⟩ := openElement_keeps setting pass (Name.canonical tag.name)
      tag.attributes (closesItself pass.inForeign tag)
    exact .element _ starts pass.target rfl rfl (by rw [acts]; exact after)
      (by rw [acts]; exact attributes)

theorem converts (setting : Setting) (pass : Pass) (token : Html.Token) :
    pass.Converts setting token := by
  cases token with
  | startTag tag => exact converts_startTag setting pass tag
  | endTag name => exact .nothing rfl (keeps_closeTag pass name)
  | text piece => exact .nothing rfl (keeps_text pass piece)
  | comment text => exact .nothing rfl (keeps_comment pass text)

/-! ### A whole run -/

theorem threaded_run (setting : Setting) (pass : Pass) (tokens : List Html.Token) :
    Threaded setting pass.tables (pass.starts setting tokens) (pass.run setting tokens).tables := by
  induction tokens generalizing pass with
  | nil => exact .nil _
  | cons token tokens ih =>
    have rest := ih (pass.step setting token)
    rw [run_cons, starts]
    rw [step_eq] at rest ⊢
    cases converts setting (pass.settle token) token with
    | nothing none keeps =>
      rw [keeps.tables, (keeps_settle pass token).tables] at rest
      rwa [none]
    | body start isStart place before after attributes
    | element start isStart target place before after attributes =>
      rw [after] at rest
      rw [isStart, ← (keeps_settle pass token).tables, ← before]
      exact .cons start rest

theorem emits_attributes (setting : Setting) (pass : Pass) (token : Html.Token) :
    (pass.emits setting token).toList.filterMap
        (fun piece => piece.2.attributes?.map (piece.1, ·)) =
      (pass.start? setting token).toList.filterMap
        (fun start => start.place.map (·, start.text setting)) := by
  cases token with
  | startTag tag =>
    simp only [emits, start?, tagPiece]
    split_ifs <;>
      simp_all [Piece.attributes?, Start.text, Start.properties, Attribute.convert]
  | endTag name => simp [emits, start?]
  | text piece =>
    simp only [emits, start?]
    split <;> rfl
  | comment text =>
    simp only [emits, start?]
    split_ifs <;> rfl

/-- The attributes in the outputs are those of the start tags. -/
theorem sent_attributes (setting : Setting) (pass : Pass) (tokens : List Html.Token) :
    (pass.sent setting tokens).filterMap (fun piece => piece.2.attributes?.map (piece.1, ·)) =
      (pass.starts setting tokens).filterMap
        (fun start => start.place.map (·, start.text setting)) := by
  induction tokens generalizing pass with
  | nil => rfl
  | cons token tokens ih =>
    rw [sent, starts, List.filterMap_append, List.filterMap_append, ih, emits_attributes]

theorem exists_sent_iff {tokens : List Html.Token} {target : Target} {text : String} :
    (∃ piece, (target, piece) ∈ pass.sent setting tokens ∧ piece.attributes? = some text) ↔
      ∃ start ∈ pass.starts setting tokens,
        start.place = some target ∧ start.text setting = text := by
  have same : (target, text) ∈ (pass.sent setting tokens).filterMap
        (fun piece => piece.2.attributes?.map (piece.1, ·)) ↔
      (target, text) ∈ (pass.starts setting tokens).filterMap
        (fun start => start.place.map (·, start.text setting)) := by
    rw [sent_attributes]
  simpa [List.mem_filterMap] using same

/-- The attributes of the body are those of the last that was accepted. -/
theorem bodyAttributes_run (setting : Setting) (pass : Pass) (tokens : List Html.Token) :
    (pass.run setting tokens).bodyAttributes =
      (((pass.starts setting tokens).filter (·.place = none)).getLast?.map
        (Start.text setting)).or pass.bodyAttributes := by
  induction tokens generalizing pass with
  | nil => rfl
  | cons token tokens ih =>
    have same := (keeps_settle pass token).bodyAttributes
    rw [run_cons, ih, starts, List.filter_append, List.getLast?_append, Option.map_or,
      Option.or_assoc, step_eq]
    congr 1
    cases converts setting (pass.settle token) token with
    | nothing none keeps => simp [none, keeps.bodyAttributes, same]
    | body start isStart place before after attributes => simp [isStart, place, attributes]
    | element start isStart target place before after attributes =>
      simp [isStart, place, attributes, same]

end Pass

end JsxPages.Document
