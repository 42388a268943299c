import JsxPages.Proofs.Document.Log
import Mathlib.Data.List.Basic
/-!
# What is mended is reported

An end tag is written for an element that an end tag of the document stands for, or because the
element has to end with something else. In the log of a run the second kind stands side by side with
the diagnostic that reports it, whatever frames are closed between two of them; so the names of both
are the same list, and no account of the stack is needed (`Balanced`).

What else is reported is a question about single tokens and the states in which they arrive: an end
tag that closes nothing, and a second body. `Mends` says all that a token can mend, and the rest of
the account is read off its cases.
-/

namespace JsxPages.Document

namespace Event

/-- The name of an end tag that an end tag of the document stands for. -/
def named? : Event → Option String
  | close _ name true => some name
  | piece .. | close .. | body | report _ => none

/-- The name of an end tag that nothing in the document stands for. -/
def supplied? : Event → Option String
  | close _ name false => some name
  | piece .. | close .. | body | report _ => none

end Event

namespace Diagnostic

/-- The name of an element that is reported because nothing in the document ends it. -/
def supplied? : Diagnostic → Option String
  | mismatchedClose expected _ => some expected
  | unclosed name => some name
  | strayClose _ | duplicateBody | missingBody => none

def stray? : Diagnostic → Option String
  | strayClose name => some name
  | mismatchedClose .. | unclosed _ | duplicateBody | missingBody => none

end Diagnostic

def Frame.elementName? : Frame → Option String
  | element name _ => some name
  | discarded _ | body | document => none

namespace Pass

/-- The name of the element that an end tag stands for. -/
def matched? (pass : Pass) : Html.Token → Option String
  | .endTag written =>
    let name := Name.canonical written
    if Name.isVoid name then none
    else (pass.candidates.find? (·.closedBy name)).bind Frame.elementName?
  | .startTag _ | .text _ | .comment _ => none

/-- The name of an end tag outside dropped content that closes nothing. -/
def stray? (pass : Pass) : Html.Token → Option String
  | .endTag written =>
    let name := Name.canonical written
    if Name.isVoid name || pass.discarding || pass.stack.any (·.closedBy name) then none
    else some name
  | .startTag _ | .text _ | .comment _ => none

def acceptsBody (pass : Pass) (token : Html.Token) : Bool :=
  pass.reachesBody token && !pass.bodyOpen

def repeatsBody (pass : Pass) (token : Html.Token) : Bool :=
  pass.reachesBody token && pass.bodyOpen

variable {setting : Setting} {pass : Pass}

/-! ### What a token mends -/

theorem candidates_prefix (pass : Pass) : pass.candidates <+: pass.stack := by
  rw [candidates]
  split
  · exact List.takeWhile_prefix _
  · exact List.prefix_refl _

/-- An end tag that closes a candidate stands for the first frame of the whole stack that it
closes. -/
theorem exists_find?_candidates {name : String}
    (closes : pass.candidates.any (·.closedBy name) = true) :
    ∃ frame, pass.candidates.find? (·.closedBy name) = some frame ∧
      pass.stack.find? (·.closedBy name) = some frame := by
  have found := List.find?_isSome.2 (List.any_eq_true.1 closes)
  obtain ⟨frame, first⟩ := Option.isSome_iff_exists.1 found
  exact ⟨frame, first, pass.candidates_prefix.find?_eq_some first⟩

/-- All that a token can mend: nothing; the frames of a stack, for an end tag that stands for one of
them; an end tag that stands for none; a body that begins, or one inside another. -/
inductive Mends (pass : Pass) (token : Html.Token) : Prop where
  | nothing (events : pass.mends token = []) (matched : pass.matched? token = none)
      (stray : pass.stray? token = none) (accepted : pass.acceptsBody token = false)
      (repeated : pass.repeatsBody token = false)
  | closes (name : String) (events : pass.mends token = through name pass.stack)
      (matched : pass.matched? token =
        (pass.stack.find? (·.closedBy name)).bind Frame.elementName?)
      (stray : pass.stray? token = none) (accepted : pass.acceptsBody token = false)
      (repeated : pass.repeatsBody token = false)
  | strays (name : String) (events : pass.mends token = [.report (.strayClose name)])
      (matched : pass.matched? token = none) (stray : pass.stray? token = some name)
      (accepted : pass.acceptsBody token = false) (repeated : pass.repeatsBody token = false)
  | accepts (events : pass.mends token = [.body]) (matched : pass.matched? token = none)
      (stray : pass.stray? token = none) (accepted : pass.acceptsBody token = true)
      (repeated : pass.repeatsBody token = false)
  | repeats (events : pass.mends token = [.report .duplicateBody])
      (matched : pass.matched? token = none) (stray : pass.stray? token = none)
      (accepted : pass.acceptsBody token = false) (repeated : pass.repeatsBody token = true)

theorem mends_startTag (pass : Pass) (tag : Html.Tag) : Mends pass (.startTag tag) := by
  cases reached : pass.reachesBody (.startTag tag) with
  | false =>
    exact .nothing (by simp [mends, reached]) rfl rfl (by simp [acceptsBody, reached])
      (by simp [repeatsBody, reached])
  | true =>
    cases opened : pass.bodyOpen with
    | false =>
      exact .accepts (by simp [mends, reached, opened]) rfl rfl
        (by simp [acceptsBody, reached, opened]) (by simp [repeatsBody, opened])
    | true =>
      exact .repeats (by simp [mends, reached, opened]) rfl rfl
        (by simp [acceptsBody, opened]) (by simp [repeatsBody, reached, opened])

theorem mends_endTag (pass : Pass) (written : String) : Mends pass (.endTag written) := by
  cases isVoid : Name.isVoid (Name.canonical written) with
  | true =>
    exact .nothing (by simp [mends, isVoid]) (by simp [matched?, isVoid])
      (by simp [stray?, isVoid]) rfl rfl
  | false =>
    -- in dropped content a frame that is no candidate may have the name, but it is out of reach
    cases closes : pass.candidates.any (·.closedBy (Name.canonical written)) with
    | true =>
      obtain ⟨frame, first, onStack⟩ := exists_find?_candidates closes
      have stands : pass.stack.any (·.closedBy (Name.canonical written)) = true :=
        List.any_eq_true.2 ⟨frame, List.mem_of_find?_eq_some onStack, List.find?_some onStack⟩
      exact .closes (Name.canonical written) (by simp [mends, isVoid, closes])
        (by simp [matched?, isVoid, first, onStack]) (by simp [stray?, stands]) rfl rfl
    | false =>
      have matched : pass.matched? (.endTag written) = none := by
        simp [matched?, isVoid, List.find?_eq_none.2 (List.any_eq_false.1 closes)]
      cases inside : pass.discarding with
      | true =>
        exact .nothing (by simp [mends, closes, inside]) matched (by simp [stray?, inside]) rfl rfl
      | false =>
        have same : pass.candidates = pass.stack := by simp [candidates, inside]
        exact .strays (Name.canonical written) (by simp [mends, isVoid, closes, inside]) matched
          (by simp [stray?, isVoid, inside, same ▸ closes]) rfl rfl

theorem mends_cases (pass : Pass) (token : Html.Token) : Mends pass token := by
  cases token with
  | startTag tag => exact pass.mends_startTag tag
  | endTag written => exact pass.mends_endTag written
  | text | comment => exact .nothing rfl rfl rfl rfl rfl

/-! ### The account of a log -/

theorem count_flatMap_eq_countP {α : Type} {list : List α} {f : α → List Diagnostic}
    {diagnostic : Diagnostic} {p : α → Bool}
    (each : ∀ a, (f a).count diagnostic = if p a then 1 else 0) :
    (list.flatMap f).count diagnostic = list.countP p := by
  induction list with
  | nil => rfl
  | cons first rest ih =>
    rw [List.flatMap_cons, List.count_append, each, ih, List.countP_cons, Nat.add_comm]

theorem diagnosticsOf_append (events more : List Event) :
    diagnosticsOf (events ++ more) = diagnosticsOf events ++ diagnosticsOf more :=
  List.filterMap_append

@[simp] theorem diagnosticsOf_sends (setting : Setting) (pass : Pass) (token : Html.Token) :
    diagnosticsOf (pass.sends setting token) = [] := by
  simp [diagnosticsOf, sends, List.filterMap_map, Function.comp_def, Event.diagnostic?]

theorem diagnosticsOf_events (setting : Setting) (pass : Pass) (token : Html.Token) :
    diagnosticsOf (pass.events setting token) = diagnosticsOf (pass.mends token) := by
  rw [events, diagnosticsOf_append, diagnosticsOf_sends, List.nil_append]

theorem diagnosticsOf_supplied (note : String → Diagnostic) (frames : List Frame) :
    diagnosticsOf (frames.flatMap (Frame.supplied note)) =
      (frames.filterMap Frame.elementName?).map note := by
  induction frames with
  | nil => rfl
  | cons frame rest ih =>
    rw [List.flatMap_cons, diagnosticsOf_append, ih]
    cases frame <;> rfl

theorem diagnosticsOf_named (frames : List Frame) :
    diagnosticsOf (frames.flatMap Frame.named) = [] := by
  induction frames with
  | nil => rfl
  | cons frame rest ih =>
    rw [List.flatMap_cons, diagnosticsOf_append, ih]
    cases frame <;> rfl

/-- An end tag reports the elements that it closes on the way to the frame that it stands for. -/
theorem diagnosticsOf_through (name : String) (frames : List Frame) :
    diagnosticsOf (through name frames) =
      ((frames.takeWhile fun frame => !frame.closedBy name).filterMap Frame.elementName?).map
        (.mismatchedClose · name) := by
  rw [through, diagnosticsOf_append, diagnosticsOf_supplied, diagnosticsOf_named, List.append_nil]

/-- Each end tag that nothing in the document stands for is reported, in the same order. -/
def Balanced (events : List Event) : Prop :=
  events.filterMap Event.supplied? = (diagnosticsOf events).filterMap Diagnostic.supplied?

theorem Balanced.append {events more : List Event} (first : Balanced events)
    (second : Balanced more) : Balanced (events ++ more) := by
  rw [Balanced, diagnosticsOf_append, List.filterMap_append, List.filterMap_append, first, second]

theorem balanced_flatMap {α : Type} {list : List α} {f : α → List Event}
    (each : ∀ a, Balanced (f a)) : Balanced (list.flatMap f) := by
  induction list with
  | nil => rfl
  | cons first rest ih =>
    rw [List.flatMap_cons]
    exact (each first).append ih

theorem balanced_supplied {note : String → Diagnostic}
    (names : ∀ name, (note name).supplied? = some name) (frame : Frame) :
    Balanced (frame.supplied note) := by
  cases frame with
  | element name target =>
    change [name] = [note name].filterMap Diagnostic.supplied?
    rw [List.filterMap_cons_some (names name), List.filterMap_nil]
  | discarded | body | document => rfl

theorem balanced_named (frame : Frame) : Balanced frame.named := by
  cases frame <;> rfl

theorem balanced_sends (setting : Setting) (pass : Pass) (token : Html.Token) :
    Balanced (pass.sends setting token) := by
  rw [Balanced, diagnosticsOf_sends]
  simp [sends, List.filterMap_map, Function.comp_def, Event.supplied?]

theorem balanced_mends (pass : Pass) (token : Html.Token) : Balanced (pass.mends token) := by
  cases pass.mends_cases token with
  | closes name events =>
    rw [events]
    exact (balanced_flatMap (balanced_supplied fun _ => rfl)).append
      (balanced_flatMap balanced_named)
  | nothing events | strays name events | accepts events | repeats events =>
    rw [events]
    rfl

theorem balanced_ending (pass : Pass) : Balanced pass.ending := by
  refine (balanced_flatMap (balanced_supplied fun _ => rfl)).append ?_
  split <;> rfl

theorem balanced_log (setting : Setting) (pass : Pass) (tokens : List Html.Token) :
    Balanced (pass.log setting tokens) := by
  have each (arrival : Pass × Html.Token) : Balanced (arrival.1.events setting arrival.2) :=
    (balanced_sends setting _ arrival.2).append (balanced_mends arrival.1 arrival.2)
  exact (balanced_flatMap each).append (balanced_ending _)

theorem named_supplied (note : String → Diagnostic) (frames : List Frame) :
    (frames.flatMap (Frame.supplied note)).filterMap Event.named? = [] := by
  rw [List.filterMap_flatMap, List.flatMap_eq_nil_iff]
  intro frame _
  cases frame <;> rfl

theorem named_through (name : String) (frames : List Frame) :
    (through name frames).filterMap Event.named? =
      ((frames.find? (·.closedBy name)).bind Frame.elementName?).toList := by
  rw [through, List.filterMap_append, named_supplied, List.nil_append]
  cases frames.find? (·.closedBy name) with
  | none => rfl
  | some frame => cases frame <;> rfl

theorem named_events (setting : Setting) (pass : Pass) (token : Html.Token) :
    (pass.events setting token).filterMap Event.named? = (pass.matched? token).toList := by
  have sent : (pass.settle token |>.sends setting token).filterMap Event.named? = [] := by
    simp [sends, List.filterMap_map, Function.comp_def, Event.named?]
  rw [events, List.filterMap_append, sent, List.nil_append]
  cases pass.mends_cases token with
  | closes name events matched =>
    rw [events, matched]
    exact named_through name pass.stack
  | nothing events matched | strays name events matched | accepts events matched
  | repeats events matched =>
    rw [events, matched]
    rfl

theorem named_ending (pass : Pass) : pass.ending.filterMap Event.named? = [] := by
  rw [ending, List.filterMap_append, named_supplied, List.nil_append]
  split <;> rfl

theorem stray_events (setting : Setting) (pass : Pass) (token : Html.Token) :
    (diagnosticsOf (pass.events setting token)).filterMap Diagnostic.stray? =
      (pass.stray? token).toList := by
  rw [diagnosticsOf_events]
  cases pass.mends_cases token with
  | closes name events _ stray =>
    rw [events, stray, diagnosticsOf_through]
    simp [Diagnostic.stray?, List.filterMap_map, Function.comp_def]
  | nothing events _ stray | strays name events _ stray | accepts events _ stray
  | repeats events _ stray =>
    rw [events, stray]
    rfl

theorem count_duplicateBody_events (setting : Setting) (pass : Pass) (token : Html.Token) :
    (diagnosticsOf (pass.events setting token)).count .duplicateBody =
      if pass.repeatsBody token then 1 else 0 := by
  rw [diagnosticsOf_events]
  cases pass.mends_cases token with
  | closes name events _ _ _ repeated =>
    rw [events, repeated, diagnosticsOf_through]
    simp [List.count_eq_zero]
  | nothing events _ _ _ repeated | strays name events _ _ _ repeated
  | accepts events _ _ _ repeated | repeats events _ _ _ repeated =>
    rw [events, repeated]
    rfl

theorem missingBody_notMem_events (setting : Setting) (pass : Pass) (token : Html.Token) :
    .missingBody ∉ diagnosticsOf (pass.events setting token) := by
  rw [diagnosticsOf_events]
  cases pass.mends_cases token with
  | closes name events => simp [events, diagnosticsOf_through]
  | nothing events | strays name events | accepts events | repeats events =>
    simp [events, diagnosticsOf, Event.diagnostic?]

theorem isBody_events (setting : Setting) (pass : Pass) (token : Html.Token) :
    (pass.events setting token).any Event.isBody = pass.acceptsBody token := by
  have sent : ((pass.settle token).sends setting token).any Event.isBody = false := by
    simp [sends, Event.isBody]
  rw [events, List.any_append, sent, Bool.false_or]
  cases pass.mends_cases token with
  | closes name events _ _ accepted =>
    rw [events, accepted, through, List.any_append, isBody_supplied, Bool.false_or]
    cases pass.stack.find? (·.closedBy name) with
    | none => rfl
    | some frame => cases frame <;> rfl
  | nothing events _ _ accepted | strays name events _ _ accepted | accepts events _ _ accepted
  | repeats events _ _ accepted =>
    rw [events, accepted]
    rfl

theorem bodySeen_run (setting : Setting) (pass : Pass) (tokens : List Html.Token) :
    (pass.run setting tokens).bodySeen =
      (pass.bodySeen ||
        (pass.arrivals setting tokens).any fun arrival => arrival.1.acceptsBody arrival.2) := by
  rw [(shows_run setting pass tokens).bodySeen, List.any_flatMap]
  simp only [isBody_events]

theorem diagnosticsOf_ending (pass : Pass) :
    diagnosticsOf pass.ending =
      (pass.stack.filterMap Frame.elementName?).map .unclosed ++
        if pass.bodySeen then [] else [.missingBody] := by
  rw [ending, diagnosticsOf_append, diagnosticsOf_supplied]
  split <;> rfl

theorem diagnosticsOf_log (setting : Setting) (pass : Pass) (tokens : List Html.Token) :
    diagnosticsOf (pass.log setting tokens) =
      ((pass.arrivals setting tokens).flatMap fun arrival =>
          diagnosticsOf (arrival.1.events setting arrival.2)) ++
        diagnosticsOf (pass.run setting tokens).ending := by
  rw [log, diagnosticsOf_append, diagnosticsOf, List.filterMap_flatMap]
  rfl

theorem named_log (setting : Setting) (pass : Pass) (tokens : List Html.Token) :
    (pass.log setting tokens).filterMap Event.named? =
      (pass.arrivals setting tokens).filterMap fun arrival => arrival.1.matched? arrival.2 := by
  rw [log, List.filterMap_append, named_ending, List.append_nil, List.filterMap_flatMap,
    List.filterMap_eq_flatMap_toList]
  simp only [named_events]

theorem stray_log (setting : Setting) (pass : Pass) (tokens : List Html.Token) :
    (diagnosticsOf (pass.log setting tokens)).filterMap Diagnostic.stray? =
      (pass.arrivals setting tokens).filterMap fun arrival => arrival.1.stray? arrival.2 := by
  have ending : (diagnosticsOf (pass.run setting tokens).ending).filterMap Diagnostic.stray? =
      [] := by
    rw [diagnosticsOf_ending, List.filterMap_append, List.filterMap_map]
    split <;> simp [Function.comp_def, Diagnostic.stray?]
  rw [diagnosticsOf_log, List.filterMap_append, ending, List.append_nil, List.filterMap_flatMap,
    List.filterMap_eq_flatMap_toList]
  simp only [stray_events]

theorem count_duplicateBody_log (setting : Setting) (pass : Pass) (tokens : List Html.Token) :
    (diagnosticsOf (pass.log setting tokens)).count .duplicateBody =
      (pass.arrivals setting tokens).countP fun arrival => arrival.1.repeatsBody arrival.2 := by
  have ending : (diagnosticsOf (pass.run setting tokens).ending).count .duplicateBody = 0 := by
    rw [diagnosticsOf_ending, List.count_eq_zero]
    split <;> simp
  rw [diagnosticsOf_log, List.count_append, ending, Nat.add_zero]
  exact count_flatMap_eq_countP fun arrival =>
    count_duplicateBody_events setting arrival.1 arrival.2

/-- A run that began without a body and accepts none reports that one is missing, as the last
thing. -/
theorem exists_diagnosticsOf_log (setting : Setting) (pass : Pass) (tokens : List Html.Token)
    (unseen : pass.bodySeen = false) :
    ∃ front, .missingBody ∉ front ∧
      diagnosticsOf (pass.log setting tokens) = front ++
        if (pass.arrivals setting tokens).any fun arrival => arrival.1.acceptsBody arrival.2 then []
        else [.missingBody] := by
  rw [diagnosticsOf_log, diagnosticsOf_ending, bodySeen_run, unseen, Bool.false_or,
    ← List.append_assoc]
  refine ⟨_, fun mem => ?_, rfl⟩
  rcases List.mem_append.1 mem with reading | ending
  · obtain ⟨arrival, _, mem⟩ := List.mem_flatMap.1 reading
    exact missingBody_notMem_events setting arrival.1 arrival.2 mem
  · simp at ending

/-- A body outside dropped content, any head apart that it ends, is opened or reported. -/
theorem step_of_reachesBody (setting : Setting) {tag : Html.Tag}
    (reached : pass.reachesBody (.startTag tag) = true) :
    pass.step setting (.startTag tag) =
      (pass.settle (.startTag tag)).openBody setting tag.attributes := by
  obtain ⟨isBody, outside⟩ : Name.canonical tag.name = "body" ∧
      (pass.settle (.startTag tag)).discarding = false := by
    simpa [reachesBody, isBodyTag] using reached
  rw [step_eq, act, isBody, enter, if_neg (by simp [outside]), if_neg (by decide),
    if_neg (by decide), if_pos rfl]

/-- A second body changes nothing but that it is reported, and that it ends a head that it stands
in. -/
theorem step_of_repeatsBody (setting : Setting) {token : Html.Token}
    (repeated : pass.repeatsBody token = true) :
    pass.step setting token = (pass.settle token).report .duplicateBody := by
  obtain ⟨reached, opened⟩ := Bool.and_eq_true_iff.1 repeated
  cases token with
  | endTag | text | comment => simp [reachesBody, isBodyTag] at reached
  | startTag tag =>
    rw [step_of_reachesBody setting reached, openBody, if_pos (by simpa using opened)]

theorem repeatsBody_cases (setting : Setting) {token : Html.Token}
    (repeated : pass.repeatsBody token = true) :
    pass.discarding = false ∧ pass.step setting token = pass.report .duplicateBody ∨
      ∃ rest, pass.stack = .discarded "head" :: rest ∧
        pass.step setting token = { pass with stack := rest }.report .duplicateBody := by
  have step := step_of_repeatsBody setting repeated
  rcases pass.settle_cases token with same | ⟨rest, top, left⟩
  · rw [same] at step
    have outside : pass.discarding = false := by
      have reached := (Bool.and_eq_true_iff.1 repeated).1
      simpa [same] using (Bool.and_eq_true_iff.1 reached).2
    exact .inl ⟨outside, step⟩
  · rw [left] at step
    exact .inr ⟨rest, top, step⟩

end Pass

/-- **What is mended is reported.** The log says what is written to the outputs, and which end tags
stand for an element that an end tag of the document closes. The others are the ones that the
diagnostics name as missing, in the same order. An end tag that closes nothing is reported as well,
once for each that is not dropped; a second body, once for each that stands outside dropped content
or in a head, which it ends; and at the end a missing body, where none was accepted. -/
theorem diagnostics_account (setting : Setting) (tables : Tables) (tokens : List Html.Token) :
    let arrivals := Pass.arrivals setting { tables } tokens
    let log := Pass.log setting { tables } tokens
    let diagnostics := (convertTokens setting tokens tables).1.diagnostics
    (∀ target, (Pass.run setting { tables } tokens).closed.buffer target = textOf target log) ∧
      log.filterMap Event.named? =
        arrivals.filterMap (fun arrival => arrival.1.matched? arrival.2) ∧
      log.filterMap Event.supplied? = diagnostics.filterMap Diagnostic.supplied? ∧
      diagnostics.filterMap Diagnostic.stray? =
        arrivals.filterMap (fun arrival => arrival.1.stray? arrival.2) ∧
      diagnostics.count .duplicateBody =
        arrivals.countP (fun arrival => arrival.1.repeatsBody arrival.2) ∧
      (∀ arrival ∈ arrivals, arrival.1.repeatsBody arrival.2 = true →
        arrival.1.discarding = false ∧
            arrival.1.step setting arrival.2 = arrival.1.report .duplicateBody ∨
          ∃ rest, arrival.1.stack = .discarded "head" :: rest ∧
            arrival.1.step setting arrival.2 =
              { arrival.1 with stack := rest }.report .duplicateBody) ∧
      ∃ front, .missingBody ∉ front ∧
        diagnostics = front ++
          if arrivals.any (fun arrival => arrival.1.acceptsBody arrival.2) then []
          else [.missingBody] := by
  intro arrivals log diagnostics
  have shows := Pass.shows_log setting { tables } tokens
  have all : diagnostics = diagnosticsOf log := shows.diagnostics
  rw [all]
  refine ⟨fun target => ?_, Pass.named_log setting _ tokens, Pass.balanced_log setting _ tokens,
    Pass.stray_log setting _ tokens, Pass.count_duplicateBody_log setting _ tokens,
    fun arrival _ repeated => Pass.repeatsBody_cases setting repeated,
    Pass.exists_diagnosticsOf_log setting _ tokens rfl⟩
  have empty : Pass.buffer { tables } target = "" := by cases target <;> rfl
  rw [shows.buffer target, empty, String.empty_append]

/-- A second body in a head, which it ends. -/
def bodyInHead : List Html.Token :=
  [.startTag ⟨"body", [], false⟩, .startTag ⟨"head", [], false⟩, .startTag ⟨"body", [], false⟩]

/-- It is reported although it arrives in dropped content, and the report is not all that changes. -/
theorem repeatsBody_bodyInHead :
    let arrivals := Pass.arrivals {} {} bodyInHead
    (convertTokens {} bodyInHead {}).1.diagnostics.count .duplicateBody ≠
        arrivals.countP (fun arrival =>
          isBodyTag arrival.2 && !arrival.1.discarding && arrival.1.bodyOpen) ∧
      ∃ arrival ∈ arrivals, arrival.1.repeatsBody arrival.2 = true ∧
        arrival.1.step {} arrival.2 ≠ arrival.1.report .duplicateBody := by
  decide +kernel

end JsxPages.Document
