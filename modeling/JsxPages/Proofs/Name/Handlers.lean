import JsxPages.Proofs.Name.Spelling
/-!
# Names that are spelled as event handlers

The property of every event is a handler: `on`, a capital and letters. It is so as well for other
names, because whether a name is one of an event is asked before its property is known: `on` and an
event with a hyphen or a colon between them are joined to a handler (`isHandler_property_iff`).
-/

namespace JsxPages.Name

/-- A property that is read as an event handler: `on`, a capital and letters. -/
def IsHandler (name : String) : Prop :=
  ∃ capital rest, name.toList = 'o' :: 'n' :: capital :: rest ∧ capital.isUpper = true ∧
    ∀ c ∈ rest, c.isAlpha = true

theorem isEvent_of_isHandler {name : String} (handler : IsHandler name) : isEvent name = true := by
  obtain ⟨capital, rest, spelled, upper, letters⟩ := handler
  rw [isEvent, spelled]
  have alpha : capital.isAlpha = true := Text.isAlpha_of_isUpper upper
  simp [alpha, List.all_eq_true.2 letters]

theorem not_isHandler_of_lower {name : String} (lower : Text.lower name = name) :
    ¬ IsHandler name := by
  rintro ⟨capital, rest, spelled, upper, _⟩
  have notUpper := isUpper_of_lower lower (c := capital) (by simp [spelled])
  rw [upper] at notUpper
  cases notUpper

theorem isProperty_of_isHandler {name : String} (handler : IsHandler name) :
    isProperty name = true := by
  obtain ⟨capital, rest, spelled, upper, letters⟩ := handler
  refine isProperty_iff.2 ⟨'o', _, spelled, by decide, ?_⟩
  have alpha : ∀ c ∈ 'n' :: capital :: rest, c.isAlpha = true :=
    List.forall_mem_cons.2 ⟨by decide,
      List.forall_mem_cons.2 ⟨Text.isAlpha_of_isUpper upper, letters⟩⟩
  intro c mem
  simp [isIdentifierChar, Text.isAlphanum_of_isAlpha (alpha c mem)]

/-! ### Events -/

theorem exists_of_isEvent {name : String} (lower : Text.lower name = name)
    (event : isEvent name = true) : ∃ first rest, name.toList = 'o' :: 'n' :: first :: rest ∧
      ∀ c ∈ first :: rest, c.isAlpha = true := by
  unfold isEvent at event
  split at event
  · rename_i o n rest spelled
    simp only [Bool.and_eq_true, beq_iff_eq, List.all_eq_true] at event
    obtain ⟨⟨⟨isO, isN⟩, some⟩, letters⟩ := event
    rw [toLower_of_lower lower (by simp [spelled])] at isO
    rw [toLower_of_lower lower (by simp [spelled])] at isN
    cases rest with
    | nil => cases some
    | cons first rest => exact ⟨first, rest, by rw [spelled, isO, isN], letters⟩
  · cases event

/-- The property of an event that the table does not have. -/
theorem eventProperty_of_none {name : String} {first : Char} {rest : List Char}
    (lower : Text.lower name = name) (unknown : handlerProperties.lookup name = none)
    (spelled : name.toList = 'o' :: 'n' :: first :: rest) (letter : first.isAlpha = true) :
    (eventProperty name).toList = 'o' :: 'n' :: first.toUpper :: rest := by
  have ascii : first.toNat < 128 :=
    Text.toNat_lt_of_isAlphanum (Text.isAlphanum_of_isAlpha letter)
  rw [eventProperty, lower, unknown, spelled]
  simp [Text.capitalize, Text.upper, ascii]

theorem isAlpha_of_isEvent {name : String} (lower : Text.lower name = name)
    (event : isEvent name = true) : ∀ c ∈ name.toList, c.isAlpha = true := by
  obtain ⟨first, rest, spelled, letters⟩ := exists_of_isEvent lower event
  rw [spelled]
  exact List.forall_mem_cons.2 ⟨by decide, List.forall_mem_cons.2 ⟨by decide, letters⟩⟩

theorem isHandler_eventProperty {name : String} (lower : Text.lower name = name)
    (event : isEvent name = true) : IsHandler (eventProperty name) := by
  cases known : handlerProperties.lookup name with
  | some own =>
    have table : ∀ entry ∈ handlerProperties,
        (entry.2.toList.drop 2).head?.any Char.isUpper = true := by decide +kernel
    obtain ⟨rest, spelled, letters⟩ := exists_eventProperty event
    have capital := table (name, own) (mem_of_lookup known)
    have same : eventProperty name = own := by rw [eventProperty, lower, known]
    rw [← same, spelled] at capital
    cases rest with
    | nil => cases capital
    | cons first rest => exact ⟨first, rest, spelled, capital, (List.forall_mem_cons.1 letters).2⟩
  | none =>
    obtain ⟨first, rest, spelled, letters⟩ := exists_of_isEvent lower event
    obtain ⟨letter, others⟩ := List.forall_mem_cons.1 letters
    refine ⟨_, _, eventProperty_of_none lower known spelled letter, ?_, others⟩
    rw [← Text.isAlpha_toUpper] at letter
    exact Text.isUpper_of_isAlpha letter (Text.isLower_toUpper first)

/-! ### Other names -/

/-- Nothing but letters and separators. -/
def IsWords (text : List Char) : Prop :=
  ∀ c ∈ text, isSeparator c = true ∨ c.isAlpha = true

/-- `on`, a separator and words, with separators in front. -/
def IsHyphenedHandler (text : List Char) : Prop :=
  ∃ before separator after, text = before ++ 'o' :: 'n' :: separator :: after ∧
    (∀ c ∈ before, isSeparator c = true) ∧ isSeparator separator = true ∧
      (∃ c ∈ after, isSeparator c = false) ∧ IsWords after

/-- Words, the first of which begins with a letter or with something that has letters for its
capital. -/
def IsSpacedEvent (text : List Char) : Prop :=
  ∃ before first after, text = before ++ first :: after ∧ (∀ c ∈ before, isSeparator c = true) ∧
    isSeparator first = false ∧ (∀ c ∈ Text.upper first, c.isAlpha = true) ∧ IsWords after

/-- A name in no table whose parts are those of a handler: `on` and an event, with a hyphen or a
colon between them. -/
inductive SpellsHandler (name : String) : Prop where
  | hyphened (unknown : ownProperty? name = none) (noColon : ':' ∉ name.toList)
      (hyphen : '-' ∈ name.toList) (handler : IsHyphenedHandler name.toList)
  | spaced {event : List Char} (unknown : ownProperty? name = none)
      (cut : name.toList = 'o' :: 'n' :: ':' :: event) (handler : IsSpacedEvent event)

/-- Between the parts of a name stands something. -/
theorem separator_of_spellsHandler {name : String} (spells : SpellsHandler name) :
    ∃ c ∈ name.toList, isSeparator c = true := by
  cases spells with
  | hyphened _ _ hyphen => exact ⟨'-', hyphen, by decide⟩
  | spaced _ cut => exact ⟨':', by simp [cut], by decide⟩

theorem isEvent_of_spellsHandler {name : String} (lower : Text.lower name = name)
    (spells : SpellsHandler name) : isEvent name = false := by
  rw [← Bool.not_eq_true]
  intro event
  obtain ⟨c, mem, separator⟩ := separator_of_spellsHandler spells
  rw [isSeparator_of_isAlpha (isAlpha_of_isEvent lower event c mem)] at separator
  cases separator

/-- Letters that do not begin with a small one are what follows `on` in a handler. -/
theorem isHandler_of_letters {name : String} {text : List Char}
    (spelled : name.toList = 'o' :: 'n' :: text) (some : text ≠ [])
    (capital : ∀ c ∈ text.head?, c.isLower = false) (letters : ∀ c ∈ text, c.isAlpha = true) : IsHandler name := by
  cases text with
  | nil => exact absurd rfl some
  | cons first rest =>
    obtain ⟨alpha, others⟩ := List.forall_mem_cons.1 letters
    exact ⟨first, rest, spelled, Text.isUpper_of_isAlpha alpha (capital first rfl), others⟩

theorem isHandler_camelCase_iff {name : String} (lower : Text.lower name = name) :
    IsHandler (camelCase name) ↔ IsHyphenedHandler name.toList := by
  constructor
  · rintro ⟨capital, rest, spelled, upper, letters⟩
    rcases exists_solid name.toList with all | ⟨before, first, behind, cut, begins, solid⟩
    · rw [camelCase_of_separators all] at spelled
      cases spelled
    obtain ⟨rfl, tail⟩ := List.cons.inj (spelled.symm.trans (camelCase_of_begins cut begins solid))
    -- `n` is small and so stands right behind `o`, and what follows is behind a separator
    rcases camelTail_eq_cons tail.symm with ⟨behind, rfl, third⟩ | ⟨notLower, _⟩
    · rcases camelTail_eq_cons third with ⟨after, rfl, _⟩ | ⟨_, separator, after, rfl, separates, tail⟩
      · have notUpper := isUpper_of_lower lower (c := capital) (by simp [cut])
        rw [upper] at notUpper
        cases notUpper
      · refine ⟨before, separator, after, cut, begins, separates, ?_, ?_⟩
        · by_contra all
          have none : camelTail true after = [] := camelTail_eq_nil_iff.2 (by simpa using all)
          rw [tail] at none
          cases none
        · have alpha : ∀ c ∈ camelTail true after, c.isAlpha = true := by
            rw [tail]
            exact List.forall_mem_cons.2 ⟨Text.isAlpha_of_isUpper upper, letters⟩
          exact isAlpha_camelTail_iff.1 alpha
    · simp at notLower
  · rintro ⟨before, separator, after, cut, begins, separates, ⟨c, mem, solid⟩, letters⟩
    have spelled : (camelCase name).toList = 'o' :: 'n' :: camelTail true after := by
      have notSeparator : isSeparator 'o' = false ∧ isSeparator 'n' = false := by decide
      rw [camelCase_of_begins cut begins notSeparator.1]
      simp [camelTail, notSeparator, separates]
    refine isHandler_of_letters spelled ?_ ?_ (isAlpha_camelTail_iff.2 letters)
    · rw [Ne, camelTail_eq_nil_iff]
      intro all
      rw [all c mem] at solid
      cases solid
    · intro d head
      obtain ⟨rest, written⟩ := List.head?_eq_some_iff.1 head
      exact isLower_of_camelTail written

theorem isLower_head_capitalize (text : String) :
    ∀ c ∈ (Text.capitalize text).toList.head?, c.isLower = false := by
  intro c isFirst
  unfold Text.capitalize at isFirst
  split at isFirst
  · cases isFirst
  · rename_i first rest _
    rw [String.toList_ofList, List.head?_append_of_ne_nil _ (Text.upper_ne_nil first)] at isFirst
    exact Text.isLower_of_mem_upper (List.mem_of_mem_head? isFirst)

theorem isSpacedEvent_iff {event : List Char} :
    IsSpacedEvent event ↔ (Text.capitalize (camelCase (String.ofList event))).toList ≠ [] ∧
      ∀ c ∈ (Text.capitalize (camelCase (String.ofList event))).toList, c.isAlpha = true := by
  constructor
  · rintro ⟨before, first, after, cut, begins, solid, capital, letters⟩
    rw [capitalize_of_begins (by rwa [String.toList_ofList]) begins solid]
    refine ⟨by simp [Text.upper_ne_nil], List.forall_mem_append.2 ⟨capital, ?_⟩⟩
    exact isAlpha_camelTail_iff.2 letters
  · rintro ⟨some, letters⟩
    rcases exists_solid event with all | ⟨before, first, after, cut, begins, solid⟩
    · rw [camelCase_of_separators (by rwa [String.toList_ofList])] at some
      exact absurd (by decide) some
    · rw [capitalize_of_begins (by rwa [String.toList_ofList]) begins solid] at letters
      obtain ⟨capital, tail⟩ := List.forall_mem_append.1 letters
      exact ⟨before, first, after, cut, begins, solid, capital, isAlpha_camelTail_iff.1 tail⟩

/-- A handler that is put together from a part without capitals and one that does not begin small is
cut behind `on`. -/
theorem cut_of_handler {space behind rest : List Char} {capital : Char}
    (whole : 'o' :: 'n' :: capital :: rest = space ++ behind) (some : space ≠ [])
    (small : ∀ c ∈ space, c.isUpper = false) (upper : capital.isUpper = true)
    (begins : ∀ c ∈ behind.head?, c.isLower = false) :
    space = ['o', 'n'] ∧ capital :: rest = behind := by
  match space with
  | [] => exact absurd rfl some
  | [o] =>
    have behindO : 'n' :: capital :: rest = behind := (List.cons.inj whole).2
    exact absurd (begins 'n' (by simp [← behindO])) (by decide)
  | [o, n] =>
    obtain ⟨rfl, behindO⟩ := List.cons.inj whole
    obtain ⟨rfl, behindN⟩ := List.cons.inj behindO
    exact ⟨rfl, behindN⟩
  | o :: n :: third :: _ =>
    obtain ⟨_, behindO⟩ := List.cons.inj whole
    obtain ⟨_, behindN⟩ := List.cons.inj behindO
    obtain ⟨rfl, _⟩ := List.cons.inj behindN
    have notUpper := small capital (by simp)
    rw [upper] at notUpper
    cases notUpper

theorem isHandler_namespaced_iff {name : String} (lower : Text.lower name = name)
    {space event : List Char} (cut : name.toList = space ++ ':' :: event) (first : ':' ∉ space) :
    IsHandler (namespaced name) ↔ space = ['o', 'n'] ∧ IsSpacedEvent event := by
  constructor
  · rintro ⟨capital, rest, spelled, upper, letters⟩
    obtain ⟨⟨some, _⟩, whole⟩ : (space ≠ [] ∧ event ≠ []) ∧ _ := by
      refine (namespaced_cases cut first).resolve_left fun none => ?_
      rw [none.2] at spelled
      cases spelled
    rw [spelled, map_toLower_of_cut lower cut] at whole
    have small : ∀ c ∈ space, c.isUpper = false :=
      fun c mem => isUpper_of_lower lower (by simp [cut, mem])
    obtain ⟨rfl, behind⟩ := cut_of_handler whole some small upper (isLower_head_capitalize _)
    refine ⟨rfl, isSpacedEvent_iff.2 ?_⟩
    rw [← behind]
    exact ⟨List.cons_ne_nil _ _,
      List.forall_mem_cons.2 ⟨Text.isAlpha_of_isUpper upper, letters⟩⟩
  · rintro ⟨rfl, handler⟩
    obtain ⟨some, letters⟩ := isSpacedEvent_iff.1 handler
    obtain ⟨_, whole⟩ : (['o', 'n'] ≠ [] ∧ event ≠ []) ∧ _ := by
      refine (namespaced_cases cut first).resolve_left fun none => ?_
      obtain rfl : event = [] := none.1.resolve_left (List.cons_ne_nil _ _)
      exact some (by decide)
    rw [map_toLower_of_cut lower cut] at whole
    exact isHandler_of_letters whole some (isLower_head_capitalize _) letters

theorem exists_first_of_keepsHyphens {name : String} (keeps : keepsHyphens name = true) :
    ∃ first rest, name.toList = first :: rest ∧ isSeparator first = false ∧ first ≠ 'o' := by
  obtain ⟨rest, data | aria⟩ := exists_of_keepsHyphens keeps
  · exact ⟨_, _, data, by decide, by decide⟩
  · exact ⟨_, _, aria, by decide, by decide⟩

theorem not_spellsHandler_of_keepsHyphens {name : String} (keeps : keepsHyphens name = true) :
    ¬ SpellsHandler name := by
  obtain ⟨start, rest, cut, solid, notO⟩ := exists_first_of_keepsHyphens keeps
  intro spells
  cases spells with
  | hyphened _ _ _ handler =>
    obtain ⟨before, separator, after, whole, begins, _⟩ := handler
    cases before with
    | nil => exact notO (List.cons.inj (cut.symm.trans whole)).1
    | cons c before =>
      obtain ⟨rfl, _⟩ := List.cons.inj (cut.symm.trans whole)
      rw [begins start (by simp)] at solid
      cases solid
  | spaced _ whole => exact notO (List.cons.inj (cut.symm.trans whole)).1

/-- **The property of a name that is no event is spelled as a handler** if the parts of the name are
those of a handler. -/
theorem isHandler_property_iff {name : String} (lower : Text.lower name = name) :
    IsHandler (property name) ↔ SpellsHandler name := by
  cases property_cases name with
  | own known spelled =>
    have notEvent := (isTabled_of_ownProperty? known).notEvent
    rw [spelled]
    refine iff_of_false (fun handler => ?_) (fun spells => ?_)
    · rw [isEvent_of_isHandler handler] at notEvent
      cases notEvent
    · cases spells with
      | hyphened unknown | spaced unknown =>
        rw [unknown] at known
        cases known
  | kept unknown keeps spelled =>
    rw [spelled]
    exact iff_of_false (not_isHandler_of_lower lower) (not_spellsHandler_of_keepsHyphens keeps)
  | spaced unknown loses cut first spelled =>
    rename_i space event
    rw [spelled, isHandler_namespaced_iff lower cut first]
    constructor
    · rintro ⟨rfl, handler⟩
      exact .spaced unknown cut handler
    · intro spells
      cases spells with
      | hyphened _ noColon => exact absurd (by simp [cut]) noColon
      | spaced _ whole handler =>
        have same : space ++ ':' :: event = ['o', 'n'] ++ ':' :: _ := cut.symm.trans whole
        obtain ⟨rfl, rfl⟩ := cut_inj first (by decide) same
        exact ⟨rfl, handler⟩
  | hyphened unknown loses noColon hyphen spelled =>
    rw [spelled, isHandler_camelCase_iff lower]
    constructor
    · exact .hyphened unknown noColon hyphen
    · intro spells
      cases spells with
      | hyphened _ _ _ handler => exact handler
      | spaced _ whole => exact absurd (by simp [whole]) noColon
  | bare unknown noColon noHyphen spelled =>
    rw [spelled]
    refine iff_of_false (not_isHandler_of_lower lower) fun spells => ?_
    cases spells with
    | hyphened _ _ hyphen => exact noHyphen hyphen
    | spaced _ cut => exact noColon (by simp [cut])

end JsxPages.Name
