import JsxPages.Proofs.Document.Edit
import JsxPages.Proofs.Jsx.Text
/-!
# Text and comments never become markup

What a pass writes for a text is that text with references in the place of markup, so it says
nothing but the text, and a text may arrive in pieces that are cut anywhere: they are written behind
each other, and the target does not change in between. Only in an open head it matters where a text
is cut, since a blank piece is dropped there and any other ends the head.
-/

namespace JsxPages.Document

namespace Pass

variable {pass : Pass}

theorem write_write (pass : Pass) (target : Target) (first second : String) :
    (pass.write target first).write target second = pass.write target (first ++ second) := by
  cases target <;> simp [write, String.append_assoc]

/-- A text does the same in one piece and in two. -/
theorem step_text_append (setting : Setting)
    (noHead : pass.stack.head? ≠ some (.discarded "head")) (first second : String) :
    pass.step setting (.text (first ++ second)) =
      (pass.step setting (.text first)).step setting (.text second) := by
  have acts {state : Pass} (same : state.stack = pass.stack) (piece : String) :
      state.step setting (.text piece) =
        if pass.discarding then state else state.write state.target (Jsx.escapeText piece) := by
    rw [step_eq, settle_of_head?_ne (by rwa [same]), act, discarding, discarding, same]
  rw [acts rfl, acts rfl]
  cases dropped : pass.discarding with
  | true =>
    rw [if_pos rfl, if_pos rfl, acts rfl, dropped, if_pos rfl]
  | false =>
    have target : (pass.write pass.target (Jsx.escapeText first)).target = pass.target := by
      rw [Pass.target, bodyOpen_write, Pass.target]
    rw [if_neg (by simp), if_neg (by simp), acts (stack_write ..), dropped, if_neg (by simp),
      target, write_write, Jsx.escapeText_append]

end Pass

/-- **Text and comments never become markup.** A written text holds none of the characters that
begin or end a tag or an expression, its ampersands begin its references, and it reads back as the
text. It may be written in pieces, and so a text token may be cut in two wherever no head is open. A
kept comment ends where the first `*/` behind its opening stands, whatever its text is. -/
theorem text_and_comments_inert {names : String → Option Char} (knows : Jsx.KnowsText names)
    (setting : Setting) :
    (∀ text : String,
      (∀ c ∈ (Jsx.escapeText text).toList, c ∉ ['<', '>', '\x7b', '\x7d']) ∧
      (∀ after, ('&' :: after) <:+ (Jsx.escapeText text).toList →
        ∃ reference ∈ Jsx.textReferences, reference.toList <+: '&' :: after) ∧
      Jsx.decode names (Jsx.escapeText text).toList = some (Script.units text.toList)) ∧
    (∀ first second : String,
      Jsx.escapeText (first ++ second) = Jsx.escapeText first ++ Jsx.escapeText second) ∧
    (∀ pass : Pass, pass.stack.head? ≠ some (.discarded "head") → ∀ first second,
      pass.step setting (.text (first ++ second)) =
        (pass.step setting (.text first)).step setting (.text second)) ∧
    ∀ content, ∃ body,
      Jsx.comment content = "\x7b/*" ++ body ++ "*/\x7d" ∧
      ∀ before after, (body ++ "*/\x7d").toList = before ++ '*' :: '/' :: after →
        before = body.toList := by
  refine ⟨fun text => ⟨fun c => Jsx.notMem_of_mem_escapeText, fun after suffix => ?_,
    Jsx.decode_escapeText knows text⟩, Jsx.escapeText_append,
    fun pass noHead => Pass.step_text_append setting noHead, fun content => ?_⟩
  · rw [Jsx.toList_escapeText] at suffix
    exact Jsx.exists_reference_prefix suffix
  · refine ⟨_, rfl, fun before after ends => ?_⟩
    rw [String.toList_append, String.toList_ofList] at ends
    rw [String.toList_ofList]
    exact Jsx.eq_of_commentEnd ends

theorem text_and_comments_inert_reference :
    let pass : Pass := { stack := [.element "p" .preBody], preBody := "<p>" }
    Jsx.KnowsText Jsx.commonNames ∧
      Jsx.escapeText "&lt;\x7d" = "&amp;lt;&#125;" ∧
      Jsx.decode Jsx.commonNames "&amp;lt;&#125;".toList = some (Script.units "&lt;\x7d".toList) ∧
      pass.stack.head? ≠ some (.discarded "head") ∧
      pass.step {} (.text "&lt;\x7d") = (pass.step {} (.text "&l")).step {} (.text "t;\x7d") ∧
      Jsx.comment "**//" = "\x7b/*** //*/\x7d" := by
  intro pass
  have knows : Jsx.KnowsText Jsx.commonNames := ⟨by decide, by decide, by decide⟩
  have written : Jsx.escapeText "&lt;\x7d" = "&amp;lt;&#125;" := by decide
  have noHead : pass.stack.head? ≠ some (.discarded "head") := by decide
  obtain ⟨texts, _, tokens, _⟩ := text_and_comments_inert knows {}
  have read := (texts "&lt;\x7d").2.2
  rw [written] at read
  exact ⟨knows, written, read, noHead, tokens pass noHead "&l" "t;\x7d", by decide⟩

end JsxPages.Document
