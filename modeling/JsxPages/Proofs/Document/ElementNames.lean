import JsxPages.Proofs.Document.Normalized
/-!
# The names of elements in markup

An element is written under the name of its start tag without the namespace, with the mixed case of
SVG restored. Nothing else is asked of the name. The names of tags in HTML hold any characters but a
few, so what stands behind the `<` of a start tag or of an end tag is the name of an element if and
only if it was one in the document (`Pass.tagNames_usable_iff`).

The names of a forest are looked at in all their places, at start tags and at end tags. The names of
its pieces are the same, each once.
-/

namespace JsxPages

namespace Name

/-- A name without its namespace. -/
def localPart (name : String) : String :=
  String.ofList (Text.afterLast ':' name.toList)

/-- A canonical name can be read back if the name without its namespace can: the names in mixed case
are all letters, and so are their lower cases. -/
theorem isTagName_canonical (name : String) :
    Jsx.isTagName (canonical name) = Jsx.isTagName (localPart name) := by
  have letters : ∀ entry ∈ svgElementsByLower,
      Jsx.isTagName entry.1 = true ∧ Jsx.isTagName entry.2 = true := by decide +kernel
  change Jsx.isTagName ((svgElementsByLower.lookup (localPart name)).getD (localPart name)) = _
  cases found : svgElementsByLower.lookup (localPart name) with
  | none => rfl
  | some mixed =>
    obtain ⟨lower, upper⟩ := letters _ (mem_of_lookup found)
    rw [Option.getD_some, lower, upper]

end Name

namespace Document

/-! ### The names in a forest -/

/-- The name of the element that a piece begins. -/
def Piece.name? : Piece → Option String
  | .start name _ => some name
  | .leaf (.element name _) => some name
  | .leaf (.text _) | .leaf (.comment _) => none

namespace Forest

/-- All that stands behind `<` or `</` as the name of an element, in the order of the markup. -/
def tagNames : Forest → List String
  | nil => []
  | leaf written rest => (Piece.leaf written).name?.toList ++ rest.tagNames
  | element name _ children rest => name :: (children.tagNames ++ name :: rest.tagNames)

theorem mem_tagNames {forest : Forest} {name : String} :
    name ∈ forest.tagNames ↔ name ∈ forest.pieces.filterMap Piece.name? := by
  induction forest with
  | nil => rfl
  | leaf written rest ih =>
    rw [tagNames, pieces, List.mem_append, ih]
    cases named : (Piece.leaf written).name? with
    | none => simp [List.filterMap_cons_none named]
    | some own => simp [List.filterMap_cons_some named]
  | element own attributes children rest inner outer =>
    have begins : (Piece.start own attributes).name? = some own := rfl
    rw [tagNames, pieces, List.filterMap_cons_some begins, List.filterMap_append]
    simp only [List.mem_cons, List.mem_append, inner, outer]
    -- the name of an element stands in two places
    tauto

end Forest

namespace Pass

/-! ### The names in a document -/

/-- The name in a start tag that is written where no head is to be ended, as the document has it,
with the output that it is written to. -/
def writtenName? (pass : Pass) : Html.Token → Option (Target × String)
  | .startTag tag =>
    let name := Name.canonical tag.name
    if pass.discarding ∨ name = "html" ∨ name ∈ discardedElements ∨ name = "body" then none
    else some (pass.target, tag.name)
  | .endTag _ | .text _ | .comment _ => none

/-- The names in the start tags of a run that are written. -/
def writtenNames (setting : Setting) (pass : Pass) : List Html.Token → List (Target × String)
  | [] => []
  | token :: tokens =>
    ((pass.settle token).writtenName? token).toList ++
      writtenNames setting (pass.step setting token) tokens

theorem emits_name (setting : Setting) (pass : Pass) (token : Html.Token) :
    (pass.emits setting token).toList.filterMap (fun piece => piece.2.name?.map (piece.1, ·)) =
      (pass.writtenName? token).toList.map fun name => (name.1, Name.canonical name.2) := by
  cases token with
  | startTag tag =>
    simp only [emits, writtenName?, tagPiece]
    split_ifs <;> simp_all [Piece.name?]
  | endTag name => simp [emits, writtenName?]
  | text piece =>
    simp only [emits, writtenName?]
    split <;> rfl
  | comment text =>
    simp only [emits, writtenName?]
    split_ifs <;> rfl

/-- The names in the outputs are the canonical forms of those. -/
theorem sent_names (setting : Setting) (pass : Pass) (tokens : List Html.Token) :
    (pass.sent setting tokens).filterMap (fun piece => piece.2.name?.map (piece.1, ·)) =
      (pass.writtenNames setting tokens).map fun name => (name.1, Name.canonical name.2) := by
  induction tokens generalizing pass with
  | nil => rfl
  | cons token tokens ih =>
    rw [sent, writtenNames, List.filterMap_append, List.map_append, ih, emits_name]

theorem mem_sent_names_iff {setting : Setting} {pass : Pass} {tokens : List Html.Token}
    {target : Target} {name : String} :
    name ∈ (sentTo target (pass.sent setting tokens)).filterMap Piece.name? ↔
      ∃ written, (target, written) ∈ pass.writtenNames setting tokens ∧
        Name.canonical written = name := by
  have same : (target, name) ∈ (pass.sent setting tokens).filterMap
        (fun piece => piece.2.name?.map (piece.1, ·)) ↔
      (target, name) ∈ (pass.writtenNames setting tokens).map
        fun name => (name.1, Name.canonical name.2) := by
    rw [sent_names]
  simpa [sentTo, List.mem_filterMap] using same

/-! ### The whole markup -/

/-- **An element has a usable name in the markup if and only if it has one in the document.** For
accepted options and whatever the tokens are: both outputs are forests, the markup is one of them
inside a fragment or inside the wrapper, whose name is usable; and the names in a forest, at start
tags and at end tags, are all usable if and only if so are the names in the start tags that were
written there, each without its namespace. -/
theorem tagNames_usable_iff (setting : Setting) (tables : Tables) (tokens : List Html.Token)
    (accepted : setting.options.check = .ok ()) :
    let ended := (run setting { tables } tokens).closed
    ∃ forest : Target → Forest,
      (∀ target, ended.buffer target = (forest target).render) ∧
      ((run setting { tables } tokens).finish setting).jsx =
        (if setting.options.normalizeOutput then Jsx.normalize else id)
          (root setting.options.wrapperTag ended.bodyAttributes
            (forest (if ended.bodySeen then .main else .preBody))).render ∧
      Jsx.isTagName setting.options.wrapperTag = true ∧
      ∀ target,
        (∀ name ∈ (forest target).tagNames, Jsx.isTagName name = true) ↔
          ∀ written, (target, written) ∈ writtenNames setting { tables } tokens →
            Jsx.isTagName (Name.localPart written) = true := by
  intro ended
  choose forest made rendered using exists_forest_closed setting tables tokens
  refine ⟨forest, rendered, ?_, isTagName_of_isWrapperTag (Options.check_eq_ok.1 accepted).1,
    fun target => ?_⟩
  · rw [← wrap_render, ← rendered, ← buffer_content, ite_apply]
    rfl
  · have names : ∀ name, name ∈ (forest target).tagNames ↔
        ∃ written, (target, written) ∈ writtenNames setting { tables } tokens ∧
          Name.canonical written = name := by
      intro name
      rw [Forest.mem_tagNames, made, mem_sent_names_iff]
    constructor
    · intro usable written mem
      rw [← Name.isTagName_canonical]
      exact usable _ ((names _).2 ⟨written, mem, rfl⟩)
    · intro usable name mem
      obtain ⟨written, isWritten, rfl⟩ := (names name).1 mem
      rw [Name.isTagName_canonical]
      exact usable written isWritten

/-- Two names with namespaces, one of them in the lower case of SVG. -/
def namespaced : List Html.Token :=
  [.startTag ⟨"o:p", [], false⟩, .startTag ⟨"svg:lineargradient", [], false⟩, .endTag "o:p"]

theorem tagNames_usable_namespaced :
    ({} : Options).check = .ok () ∧
      ∃ forest : Forest,
        (run {} {} namespaced).closed.buffer .preBody = forest.render ∧
        forest.render = "<p><linearGradient></linearGradient></p>" ∧
        ∀ name ∈ forest.tagNames, Jsx.isTagName name = true := by
  have accepted : ({} : Options).check = .ok () := by decide
  obtain ⟨forest, rendered, _, _, usable⟩ := tagNames_usable_iff {} {} namespaced accepted
  have text : (run {} {} namespaced).closed.buffer .preBody =
      "<p><linearGradient></linearGradient></p>" := by decide +kernel
  have readable : ∀ name ∈ writtenNames {} {} namespaced,
      Jsx.isTagName (Name.localPart name.2) = true := by decide +kernel
  refine ⟨accepted, forest .preBody, rendered .preBody, (rendered .preBody).symm.trans text, ?_⟩
  refine (usable .preBody).2 ?_
  intro written mem
  exact readable (.preBody, written) mem

end Pass

/-- A name with a character that no name of an element has, and one that is only a namespace. -/
theorem convert_element_without_name :
    (convert {} "<a$b>x</a$b>").jsx = "<><a$b>x</a$b></>" ∧ Jsx.isTagName "a$b" = false ∧
      (convert {} "<v:>x</v:>").jsx = "<><>x</></>" ∧ Jsx.isTagName "" = false := by
  decide +kernel

end Document

end JsxPages
