import JsxPages.Proofs.Attribute.Expressions
import JsxPages.Proofs.Attribute.Targets
import JsxPages.Proofs.Name.Handlers
/-!
# How the properties of a tag are spelled

All properties are words that may hold hyphens. Which of them do, and which are spelled as handlers
of events, can be told from the attributes as written: hyphens are in the names that keep theirs and
otherwise come from in front of a colon (`hyphens_of_properties`), and a handler is a function unless
it comes from a name whose parts are those of a handler (`handlers_are_functions_iff`).
-/

namespace JsxPages

namespace Name

theorem hyphen_mem_target_iff {name : String} (lower : Text.lower name = name)
    (usable : isProperty (target name) = true) :
    '-' ∈ (target name).toList ∧ keepsHyphens (target name) = false ↔ HasHyphenInFront name := by
  cases event : isEvent name with
  | false =>
    rw [target_of_not_isEvent event] at usable ⊢
    exact hyphen_mem_property_iff lower usable
  | true =>
    rw [target_of_isEvent event]
    refine iff_of_false (fun stays => ?_) fun front => ?_
    · have letter := isAlpha_of_mem_eventProperty event _ stays.1
      revert letter
      decide
    · obtain ⟨_, space, rest, cut, _⟩ := front
      have letter := isAlpha_of_isEvent lower event ':' (by simp [cut])
      revert letter
      decide

end Name

namespace Attribute

variable (assets : AssetMap) (options : Options) (tag : String)

/-! ### Hyphens -/

theorem Targets.hyphen_mem_iff {name value prop : String}
    (known : Targets (Text.lower name) value prop) :
    '-' ∈ prop.toList ∧ Name.keepsHyphens prop = false ↔ Name.HasHyphenInFront (Text.lower name) := by
  have usable := known.isProperty
  rw [← known.isTarget] at usable ⊢
  exact Name.hyphen_mem_target_iff (Text.lower_lower name) usable

/-- **Names of properties are words, and hyphens in them come from the names that keep them or from
in front of a colon.** All properties of a tag begin with a letter, `_` or `$` and go on with
letters, digits, these two and hyphens. Those with hyphens begin with `data-` or `aria-` if and only
if no attribute that sets a property has its hyphen in front of a colon. -/
theorem hyphens_of_properties (attributes : List (String × String)) (tables : Tables) :
    let names := (properties assets options tag attributes tables).1.map (·.name)
    (∀ name ∈ names, ∃ first rest, name.toList = first :: rest ∧
      (first.isAlpha = true ∨ first = '_' ∨ first = '$') ∧
        ∀ c ∈ rest, c.isAlphanum = true ∨ c = '_' ∨ c = '$' ∨ c = '-') ∧
    ((∀ name ∈ names, '-' ∈ name.toList → Name.keepsHyphens name = true) ↔
      ∀ attr ∈ attributes, SetsProperty attr → ¬ Name.HasHyphenInFront (Text.lower attr.1)) := by
  intro names
  have names_eq : names = targets attributes ++ _ :=
    names_properties assets options tag attributes tables
  have isTarget : ∀ name ∈ names, name = "className" ∨ ∃ attr ∈ attributes,
      name ∈ target? (Text.lower attr.1) attr.2 := by
    intro name mem
    obtain ⟨attr, isAttr, rfl⟩ := List.mem_map.1 mem
    exact (name_of_mem_properties isAttr).symm.imp_right mem_targets.1
  constructor
  · intro name mem
    have usable : Name.isProperty name = true := by
      rcases isTarget name mem with rfl | ⟨attr, _, sets⟩
      · decide
      · exact (targets_of_target? sets).isProperty
    obtain ⟨first, rest, spelled, start, others⟩ := Name.isProperty_iff.1 usable
    refine ⟨first, rest, spelled, ?_, fun c mem => ?_⟩
    · simpa [Name.isIdentifierStart, or_assoc] using start
    · simpa [Name.isIdentifierChar, or_assoc] using others c mem
  constructor
  · intro keeps attr mem setsProperty front
    obtain ⟨prop, sets⟩ := setsProperty_iff.1 setsProperty
    have isName : prop ∈ names := by
      rw [names_eq]
      exact List.mem_append_left _ (mem_targets.2 ⟨attr, mem, sets⟩)
    obtain ⟨hyphen, loses⟩ := (targets_of_target? sets).hyphen_mem_iff.2 front
    rw [keeps prop isName hyphen] at loses
    cases loses
  · intro none name mem hyphen
    rcases isTarget name mem with rfl | ⟨attr, isAttr, sets⟩
    · exact absurd hyphen (by decide)
    · by_contra loses
      refine none attr isAttr (setsProperty_iff.2 ⟨name, sets⟩) ((targets_of_target? sets).hyphen_mem_iff.1 ?_)
      exact ⟨hyphen, by simpa using loses⟩

/-- In front of a colon a hyphen stays. -/
theorem convert_hyphenInFront :
    (convert {} {} "p" [("a-b:c", "x")] {}).1 = " a-bC=\"x\"" ∧
      '-' ∈ "a-bC".toList ∧ Name.keepsHyphens "a-bC" = false := by
  decide +kernel

/-! ### Handlers -/

/-- A value that is a function without parameters. -/
inductive IsFunction : Jsx.Value → Prop where
  | arrow (body : String) : IsFunction (.expression ("() => \x7b" ++ body ++ "\x7d"))

theorem isFunction_handler (script : String) : IsFunction (.expression (handler script)) := by
  have arrow : handler script = "() => \x7b" ++ (" " ++ handlerBody script ++ "\n") ++ "\x7d" := by
    rw [← String.toList_inj]
    simp [handler]
  rw [arrow]
  exact .arrow _

/-- What is copied out of braces is no function. -/
theorem not_isFunction_plainValue (name value : String) : ¬ IsFunction (plainValue name value) := by
  intro function
  generalize given : plainValue name value = copied at function
  obtain ⟨body⟩ := function
  have begins : ∃ rest, ("() => \x7b" ++ body ++ "\x7d").toList = '(' :: rest :=
    ⟨_, by rw [String.toList_append, String.toList_append]; rfl⟩
  obtain ⟨rest, spelled⟩ := begins
  rcases plainValue_cases given with (same | same) | simple
  · rw [same] at spelled
    cases spelled
  · rw [same] at spelled
    cases spelled
  · rcases simple_of_expressionBody? simple with path | number
    · obtain ⟨c, _, same, start⟩ := exists_start_of_isPath path
      obtain ⟨rfl, _⟩ := List.cons.inj (spelled.symm.trans same)
      revert start
      decide
    · obtain ⟨c, _, same, start⟩ := exists_head_of_isNumber number
      obtain ⟨rfl, _⟩ := List.cons.inj (spelled.symm.trans same)
      revert start
      decide

variable {assets options tag}

theorem takesBraces_of_spellsHandler {name : String} (lower : Text.lower name = name)
    (spells : Name.SpellsHandler name) : takesBraces tag name = true := by
  have apart : name ∉ ["class", "classname", "style", "src", "poster"] := by
    intro mem
    have solid : ∀ other ∈ ["class", "classname", "style", "src", "poster"],
        other.toList.any Name.isSeparator = false := by decide
    have separator := List.any_eq_true.2 (Name.separator_of_spellsHandler spells)
    rw [solid name mem] at separator
    cases separator
  have notImage : isImage tag name = false := by
    rw [← Bool.not_eq_true]
    intro image
    rcases isImage_cases image with rfl | rfl
    · exact apart (by decide)
    · exact apart (by decide)
  have notData : Name.startsWith "data-" name = false := by
    rw [← Bool.not_eq_true]
    intro data
    have keeps : Name.keepsHyphens name = true := by rw [Name.keepsHyphens, data, Bool.true_or]
    exact Name.not_spellsHandler_of_keepsHyphens keeps spells
  have property := Name.isProperty_of_isHandler ((Name.isHandler_property_iff lower).2 spells)
  simp_all [takesBraces, Name.isEvent_of_spellsHandler lower spells]

/-- A property that is not for the classes comes from an attribute, as a function if that is an
event. -/
theorem exists_written {attributes : List (String × String)} {tables : Tables}
    {given : Jsx.Attribute} (mem : given ∈ (properties assets options tag attributes tables).1)
    (notClass : given.name ≠ "className") :
    ∃ attr ∈ attributes, given.name ∈ target? (Text.lower attr.1) attr.2 ∧
      (Name.isEvent (Text.lower attr.1) = true → given.value = .expression (handler attr.2)) := by
  have gathered : given ∈ (gatherFrom assets options tag attributes { tables }).attributes :=
    (List.mem_append.1 mem).resolve_right fun last => notClass (name_of_mem_classAttribute last)
  obtain ⟨step, isStep, added⟩ := (mem_gatherFrom_iff.1 gathered).resolve_left List.not_mem_nil
  obtain ⟨attr, isAttr, same⟩ := written_of_mem_steps isStep
  rw [same, Step.next] at added
  refine ⟨attr, isAttr, ?_⟩
  cases sets : target? (Text.lower attr.1) attr.2 with
  | none =>
    have nothing := attributes_add_of_none assets options tag sets step.gathered
    exact absurd (nothing.symm.trans added) (by simp [Step.of])
  | some prop =>
    obtain ⟨value, more, event⟩ := attributes_add_of_some assets options tag sets step.gathered
    obtain rfl := List.singleton_inj.1 (List.append_cancel_left (more.symm.trans added))
    exact ⟨rfl, event⟩

/-- **The handlers of a tag are functions**, if and only if no attribute that sets a property has a
name whose parts are those of a handler without being one. -/
theorem handlers_are_functions_iff (assets : AssetMap) (options : Options) (tag : String)
    (attributes : List (String × String)) (tables : Tables) :
    (∀ given ∈ (properties assets options tag attributes tables).1,
        Name.IsHandler given.name → IsFunction given.value) ↔
      ∀ attr ∈ attributes, SetsProperty attr → ¬ Name.SpellsHandler (Text.lower attr.1) := by
  constructor
  · intro functions attr mem setsProperty spells
    obtain ⟨prop, sets⟩ := setsProperty_iff.1 setsProperty
    have lower := Text.lower_lower attr.1
    obtain ⟨before, isStep⟩ := exists_mem_steps mem { tables }
    have added : ((Step.of tag attr before).next assets options).attributes = before.attributes ++
        [⟨Name.property (Text.lower attr.1), plainValue (Text.lower attr.1) attr.2⟩] := by
      have takes : takesBraces tag (Text.lower attr.1) = true :=
        takesBraces_of_spellsHandler lower spells
      have present := (targets_of_target? sets).present
      simp only [Step.next, Step.of, add_braces takes, present, Bool.false_eq_true, if_false]
      rfl
    have gathered := mem_gatherFrom_iff.2 (.inr ⟨_, isStep, added⟩)
    have emitted : ⟨Name.property (Text.lower attr.1), plainValue (Text.lower attr.1) attr.2⟩ ∈
        (properties assets options tag attributes tables).1 := List.mem_append_left _ gathered
    have function := functions _ emitted ((Name.isHandler_property_iff lower).2 spells)
    dsimp only at function
    exact not_isFunction_plainValue _ _ function
  · intro none given mem isHandler
    have notClass : given.name ≠ "className" := by
      intro same
      have event := Name.isEvent_of_isHandler isHandler
      rw [same] at event
      exact absurd event (by decide)
    obtain ⟨attr, isAttr, sets, function⟩ := exists_written mem notClass
    cases event : Name.isEvent (Text.lower attr.1) with
    | true =>
      rw [function event]
      exact isFunction_handler attr.2
    | false =>
      have isTarget := (targets_of_target? sets).isTarget
      rw [Name.target_of_not_isEvent event] at isTarget
      rw [← isTarget, Name.isHandler_property_iff (Text.lower_lower attr.1)] at isHandler
      exact absurd isHandler (none attr isAttr (setsProperty_iff.2 ⟨_, sets⟩))

/-- The parts of the name are those of a handler. -/
theorem convert_spelledHandler :
    (convert {} {} "p" [("on-click", "go()")] {}).1 = " onClick=\"go()\"" ∧
      (properties {} {} "p" [("on-click", "go()")] {}).1 = [⟨"onClick", .literal "go()"⟩] ∧
        Name.IsHandler "onClick" ∧ ¬ IsFunction (.literal "go()") := by
  refine ⟨by decide +kernel, by decide +kernel, ?_, nofun⟩
  exact ⟨'C', "lick".toList, by decide, by decide, List.all_eq_true.1 (by decide)⟩

end Attribute

end JsxPages
