import JsxPages.Proofs.Attribute.Targets
import JsxPages.Proofs.Name.Handlers
/-!
# Names that share a property

Two names can have the same property, and only a few do that are plain: the property of an event can
be read back but for three events, the tables hold no property twice, and other plain names are their
own property. Which of the three it is can be told from the property, so two plain names that share
one are the two of a pair of events (`target_eq_iff`).
-/

namespace JsxPages.Name

/-- Events that share a property. -/
def twins : List (String × String) :=
  [("onfocus", "onfocusin"), ("onblur", "onfocusout")]

/-- Two names share a property: two events of a pair, or names one of which is not plain. -/
def Meet (name other : String) : Prop :=
  name ≠ other ∧ ((name, other) ∈ twins ∨ (other, name) ∈ twins ∨
    (isPlain name = false ∨ isPlain other = false) ∧ target name = target other)

instance (name other : String) : Decidable (Meet name other) :=
  inferInstanceAs (Decidable (_ ∧ _))

theorem Meet.symm {name other : String} (meet : Meet name other) : Meet other name := by
  obtain ⟨different, twins | twins | ⟨notPlain, same⟩⟩ := meet
  · exact ⟨different.symm, .inr (.inl twins)⟩
  · exact ⟨different.symm, .inl twins⟩
  · exact ⟨different.symm, .inr (.inr ⟨notPlain.symm, same.symm⟩)⟩

/-! ### Events -/

/-- The events whose property has another name, with their properties. -/
def renamedHandlers : List (String × String) :=
  [("onfocusin", "onFocus"), ("onfocusout", "onBlur"), ("ondblclick", "onDoubleClick")]

theorem lower_eventProperty {name : String} (lower : Text.lower name = name)
    (event : isEvent name = true) :
    Text.lower (eventProperty name) = name ∨ (name, eventProperty name) ∈ renamedHandlers := by
  have table : ∀ entry ∈ handlerProperties,
      Text.lower entry.2 = entry.1 ∨ entry ∈ renamedHandlers := by decide +kernel
  cases known : handlerProperties.lookup name with
  | some own =>
    have same : eventProperty name = own := by rw [eventProperty, lower, known]
    rw [same]
    exact table (name, own) (mem_of_lookup known)
  | none =>
    obtain ⟨first, rest, spelled, letters⟩ := exists_of_isEvent lower event
    have small := congrArg String.toList lower
    rw [Text.lower, String.toList_ofList, spelled] at small
    refine .inl ?_
    rw [← String.toList_inj, Text.lower, String.toList_ofList,
      eventProperty_of_none lower known spelled (letters first List.mem_cons_self), spelled, ← small]
    simp only [List.map_cons, Text.toLower_toUpper]

theorem twins_of_eventProperty {name other : String} (lower : Text.lower name = name)
    (otherLower : Text.lower other = other) (event : isEvent name = true)
    (otherEvent : isEvent other = true) (different : name ≠ other)
    (same : eventProperty name = eventProperty other) :
    (name, other) ∈ twins ∨ (other, name) ∈ twins := by
  have readBack : ∀ entry ∈ renamedHandlers, (Text.lower entry.2, entry.1) ∈ twins ∨
      eventProperty (Text.lower entry.2) ≠ entry.2 := by decide +kernel
  have apart : (renamedHandlers.map (·.2)).Nodup := by decide
  rcases lower_eventProperty lower event with back | renamed
  · rcases lower_eventProperty otherLower otherEvent with otherBack | otherRenamed
    · exact absurd (back.symm.trans (same ▸ otherBack)) different
    · rw [← same] at otherRenamed
      have isTwin := readBack _ otherRenamed
      rw [back] at isTwin
      exact .inl (isTwin.resolve_right fun other => other rfl)
  · rcases lower_eventProperty otherLower otherEvent with otherBack | otherRenamed
    · rw [same] at renamed
      have isTwin := readBack _ renamed
      rw [otherBack] at isTwin
      exact .inr (isTwin.resolve_right fun other => other rfl)
    · have entries := List.inj_on_of_nodup_map apart renamed otherRenamed same
      exact absurd (congrArg Prod.fst entries) different

/-! ### Plain names -/

/-- The three kinds of properties that plain names have. -/
inductive PlainTarget (name : String) : Prop where
  | handler (event : isEvent name = true) (isTarget : target name = eventProperty name)
      (isHandler : IsHandler (target name))
  | own (mem : (name, target name) ∈ htmlProperties ++ svgProperties)
      (notEvent : isEvent (target name) = false) (capital : Text.lower (target name) ≠ target name)
  | bare (isTarget : target name = name)

/-- The tables hold no property twice. -/
theorem name_eq_of_mem {name other own : String} (mem : (name, own) ∈ htmlProperties ++ svgProperties)
    (otherMem : (other, own) ∈ htmlProperties ++ svgProperties) : name = other := by
  have apart : ((htmlProperties ++ svgProperties).map (·.2)).Nodup := by decide +kernel
  have entries : (name, own) = (other, own) := List.inj_on_of_nodup_map apart mem otherMem rfl
  exact (Prod.mk.inj entries).1

theorem exists_capital {name own : String} (mem : (name, own) ∈ htmlProperties ++ svgProperties) :
    ∃ c ∈ own.toList, c.isUpper = true := by
  have table : ∀ entry ∈ htmlProperties ++ svgProperties, entry.2.toList.any Char.isUpper = true := by
    decide +kernel
  exact List.any_eq_true.1 (table (name, own) mem)

theorem plainTarget {name : String} (lower : Text.lower name = name) (plain : isPlain name = true) :
    PlainTarget name := by
  cases event : isEvent name with
  | true =>
    have isTarget := target_of_isEvent event
    exact .handler event isTarget (isTarget ▸ isHandler_eventProperty lower event)
  | false =>
    have isTarget := target_of_not_isEvent event
    cases property_cases name with
    | own known spelled =>
      rw [← isTarget] at spelled
      have mem := mem_of_ownProperty? known
      have tabled := isTabled_of_ownProperty? known
      rw [← spelled] at mem tabled
      obtain ⟨c, inName, upper⟩ := exists_capital mem
      refine .own mem tabled.notEvent fun isLower => ?_
      rw [isUpper_of_lower isLower inName] at upper
      cases upper
    | kept _ _ spelled | bare _ _ _ spelled => exact .bare (isTarget.trans spelled)
    | spaced unknown loses cut => simp [isPlain, unknown, loses, cut] at plain
    | hyphened unknown loses _ hyphen => simp [isPlain, unknown, loses, hyphen] at plain

/-- **Two names share a property only if they are two events of a pair or one of them is not
plain.** -/
theorem target_eq_iff {name other : String} (lower : Text.lower name = name)
    (otherLower : Text.lower other = other) (different : name ≠ other) :
    target name = target other ↔ Meet name other := by
  constructor
  · intro same
    refine ⟨different, ?_⟩
    by_cases plain : isPlain name = true ∧ isPlain other = true
    · rw [← or_assoc]
      refine .inl ?_
      cases plainTarget lower plain.1 with
      | handler event isTarget isHandler =>
        cases plainTarget otherLower plain.2 with
        | handler otherEvent otherTarget _ =>
          rw [isTarget, otherTarget] at same
          exact twins_of_eventProperty lower otherLower event otherEvent different same
        | own _ notEvent _ =>
          rw [← same, isEvent_of_isHandler isHandler] at notEvent
          cases notEvent
        | bare otherTarget =>
          rw [same, otherTarget] at isHandler
          exact absurd isHandler (not_isHandler_of_lower otherLower)
      | own mem notEvent capital =>
        cases plainTarget otherLower plain.2 with
        | handler _ _ isHandler =>
          rw [same, isEvent_of_isHandler isHandler] at notEvent
          cases notEvent
        | own otherMem =>
          rw [← same] at otherMem
          exact absurd (name_eq_of_mem mem otherMem) different
        | bare otherTarget =>
          rw [same, otherTarget] at capital
          exact absurd otherLower capital
      | bare isTarget =>
        cases plainTarget otherLower plain.2 with
        | handler _ _ isHandler =>
          rw [← same, isTarget] at isHandler
          exact absurd isHandler (not_isHandler_of_lower lower)
        | own _ _ capital =>
          rw [← same, isTarget] at capital
          exact absurd lower capital
        | bare otherTarget =>
          exact absurd (isTarget.symm.trans (same.trans otherTarget)) different
    · refine .inr (.inr ⟨?_, same⟩)
      simpa only [not_and_or, Bool.not_eq_true] using plain
  · have all : ∀ pair ∈ twins, target pair.1 = target pair.2 := by decide +kernel
    rintro ⟨_, pair | pair | ⟨_, same⟩⟩
    · exact all _ pair
    · exact (all _ pair).symm
    · exact same

end JsxPages.Name
