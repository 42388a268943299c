import JsxPages.Proofs.Document.Reports
import JsxPages.Proofs.Tables.Shown
/-!
# Which body the wrapper belongs to

A body is accepted where none is open, so a body inside a body never counts. But a body may be
closed and another accepted behind it, and each that is accepted brings its own attributes: the
wrapper has those of the last (`wrapper_of_last_body`).
-/

namespace JsxPages.Document

namespace Pass

/-- The bodies of a run that are accepted, each with the state in which it arrives. -/
def acceptedBodies (setting : Setting) (pass : Pass) (tokens : List Html.Token) :
    List (Pass × Html.Token) :=
  (pass.arrivals setting tokens).filter fun arrival => arrival.1.acceptsBody arrival.2

/-- The attributes of a body as they are converted for the wrapper where the body arrives. -/
def bodyText (setting : Setting) (arrival : Pass × Html.Token) : String :=
  match arrival.2 with
  | .startTag tag =>
    (Attribute.convert setting.assets setting.options setting.options.wrapperTag tag.attributes
      arrival.1.tables).1
  | .endTag _ | .text _ | .comment _ => ""

/-- Attributes are converted for the wrapper where a body is accepted, and nowhere else. -/
theorem texts_start? (setting : Setting) (pass : Pass) (token : Html.Token) :
    (((pass.settle token).start? setting token).toList.filter (·.place = none)).map
        (Start.text setting) =
      if pass.acceptsBody token then [bodyText setting (pass, token)] else [] := by
  cases token with
  | endTag | text | comment => rfl
  | startTag tag =>
    have tables := (keeps_settle pass (.startTag tag)).tables
    have accepts : pass.acceptsBody (.startTag tag) =
        (Name.canonical tag.name == "body" && !(pass.settle (.startTag tag)).discarding &&
          !(pass.settle (.startTag tag)).bodyOpen) := by
      rw [bodyOpen_settle]
      rfl
    rw [accepts, start?]
    by_cases body : Name.canonical tag.name = "body"
    · have kept : "body" ∉ discardedElements := by decide
      rw [body]
      cases (pass.settle (.startTag tag)).discarding with
      | true => simp
      | false =>
        cases (pass.settle (.startTag tag)).bodyOpen with
        | true => simp
        | false =>
          simp only [kept, tables]
          rfl
    · simp only [body, if_false]
      split <;> simp [body]

theorem texts_starts (setting : Setting) (pass : Pass) (tokens : List Html.Token) :
    ((pass.starts setting tokens).filter (·.place = none)).map (Start.text setting) =
      (pass.acceptedBodies setting tokens).map (bodyText setting) := by
  induction tokens generalizing pass with
  | nil => rfl
  | cons token tokens ih =>
    rw [starts, List.filter_append, List.map_append, texts_start?, ih]
    simp only [acceptedBodies, arrivals, List.filter_cons]
    split <;> rfl

end Pass

/-- **The wrapper has the attributes of the body that was accepted last**, and it is a fragment if
there are none or no body was accepted. -/
theorem wrapper_of_last_body (setting : Setting) (tables : Tables) (tokens : List Html.Token) :
    let accepted := Pass.acceptedBodies setting { tables } tokens
    let content := (Pass.run setting { tables } tokens).closed.content
    let jsx := Pass.wrap setting.options.wrapperTag
      (accepted.getLast?.map (Pass.bodyText setting)) content
    (convertTokens setting tokens tables).1.jsx =
      if setting.options.normalizeOutput then Jsx.normalize jsx else jsx := by
  intro accepted content jsx
  have last : (Pass.run setting { tables } tokens).closed.bodyAttributes =
      accepted.getLast?.map (Pass.bodyText setting) := by
    rw [(Pass.keeps_closed _).bodyAttributes, Pass.bodyAttributes_run, ← List.getLast?_map,
      Pass.texts_starts, List.getLast?_map, Option.or_none]
  rw [convertTokens, Pass.finish, last]

/-- A body that is closed, and a second one behind it. -/
def secondBody : List Html.Token :=
  [.startTag ⟨"body", [("id", "a")], false⟩, .endTag "body",
    .startTag ⟨"body", [("id", "b")], false⟩]

/-- The attributes of the first are not those of the wrapper. -/
theorem wrapper_secondBody :
    let accepted := Pass.acceptedBodies {} {} secondBody
    let wrapped := fun attributes =>
      Pass.wrap "div" attributes (Pass.run {} {} secondBody).closed.content
    accepted.map (Pass.bodyText {}) = [" id=\"a\"", " id=\"b\""] ∧
      (convertTokens {} secondBody {}).1.jsx = "<div id=\"b\"></div>" ∧
      (convertTokens {} secondBody {}).1.jsx ≠
        wrapped (accepted.head?.map (Pass.bodyText {})) := by
  decide +kernel

end JsxPages.Document
