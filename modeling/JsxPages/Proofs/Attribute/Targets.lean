import JsxPages.Proofs.Attribute.Names
import JsxPages.Proofs.Tables.Attributes
/-!
# Which properties the attributes of a tag set

An attribute sets one property at most, and which one depends on its name and its value alone, not
on the tag, the options, the tables or the attributes around it (`target?`). So the names of the
properties of a tag are those of its attributes in their order, with `className` behind them if
there are classes (`names_properties`).
-/

namespace JsxPages

namespace Name

/-- The property of an attribute, given its name in lower case, be it a handler or not. -/
def target (name : String) : String :=
  if isEvent name then eventProperty name else property name

theorem target_of_isEvent {name : String} (event : isEvent name = true) :
    target name = eventProperty name :=
  if_pos event

theorem target_of_not_isEvent {name : String} (notEvent : isEvent name = false) :
    target name = property name :=
  if_neg (by simp [notEvent])

end Name

namespace Attribute

/-- The property that an attribute sets, given its name in lower case; a class sets none of its
own. -/
def target? (name value : String) : Option String :=
  if isAbsent value (Name.isBoolean name) ∨ name = "class" ∨ name = "classname" then none
  else if name = "style" then (Style.ofText value).objectLiteral?.map fun _ => "style"
  else if Name.isProperty (Name.target name) then some (Name.target name)
  else none

/-- The properties that some attributes as written set, in their order. -/
def targets (attributes : List (String × String)) : List String :=
  attributes.filterMap fun attr => target? (Text.lower attr.1) attr.2

theorem mem_targets {attributes : List (String × String)} {prop : String} :
    prop ∈ targets attributes ↔
      ∃ attr ∈ attributes, target? (Text.lower attr.1) attr.2 = some prop :=
  List.mem_filterMap

/-- An attribute as written sets a property. -/
def SetsProperty (attr : String × String) : Prop :=
  (target? (Text.lower attr.1) attr.2).isSome = true

instance (attr : String × String) : Decidable (SetsProperty attr) :=
  inferInstanceAs (Decidable (_ = true))

theorem setsProperty_iff {attr : String × String} :
    SetsProperty attr ↔ ∃ prop, target? (Text.lower attr.1) attr.2 = some prop :=
  Option.isSome_iff_exists

/-- What is known of an attribute that sets a property. -/
structure Targets (name value prop : String) : Prop where
  present : isAbsent value (Name.isBoolean name) = false
  notClass : name ≠ "class" ∧ name ≠ "classname"
  isTarget : Name.target name = prop
  isProperty : Name.isProperty prop = true

theorem targets_of_target? {name value prop : String} (sets : target? name value = some prop) :
    Targets name value prop := by
  unfold target? at sets
  split at sets
  · cases sets
  rename_i counts
  simp only [not_or, Bool.not_eq_true] at counts
  split at sets
  · rename_i style
    obtain ⟨_, _, rfl⟩ := Option.map_eq_some_iff.1 sets
    exact ⟨counts.1, counts.2, by rw [style]; decide +kernel, by decide⟩
  · obtain ⟨property, same⟩ := Option.ite_none_right_eq_some.1 sets
    obtain rfl := Option.some.inj same
    exact ⟨counts.1, counts.2, rfl, property⟩

/-! ### One attribute -/

variable (assets : AssetMap) (options : Options) (tag : String)

theorem attributes_addProperty (gathered : Gathered) {name : String}
    (property : Name.isProperty (Name.property name) = true) (value : String) :
    ∃ given, (addProperty assets options tag gathered name value).attributes =
      gathered.attributes ++ [⟨Name.property name, given⟩] := by
  rw [addProperty, if_neg (by simp [property])]
  split
  · exact ⟨dataValue value, rfl⟩
  split
  · unfold Gathered.addImage
    generalize Image.resolve assets options.imagesDir gathered.tables.images value = resolved
    exact ⟨_, rfl⟩
  · exact ⟨plainValue name value, rfl⟩

/-- An attribute that sets no property adds none. -/
theorem attributes_add_of_none {name value : String} (sets : target? name value = none)
    (gathered : Gathered) :
    (add assets options tag gathered name value).attributes = gathered.attributes := by
  unfold target? at sets
  unfold add
  split
  · rfl
  split
  · rfl
  rename_i present notClass
  rw [if_neg (by simp_all)] at sets
  split
  · rename_i style
    rw [if_pos style, Option.map_eq_none_iff] at sets
    simp only [Gathered.attributes_addCustom, Gathered.addObject, sets]
  rename_i notStyle
  rw [if_neg notStyle, ite_eq_right_iff] at sets
  split
  · rename_i event
    rw [Name.target_of_isEvent event] at sets
    cases sets (Name.isProperty_eventProperty event)
  · rename_i notEvent
    rw [Name.target_of_not_isEvent (by simpa using notEvent)] at sets
    rw [addProperty, if_pos fun property => by cases sets property]

/-- An attribute that sets a property adds it behind the others, a handler as a function. -/
theorem attributes_add_of_some {name value prop : String} (sets : target? name value = some prop)
    (gathered : Gathered) :
    ∃ given, (add assets options tag gathered name value).attributes =
        gathered.attributes ++ [⟨prop, given⟩] ∧
      (Name.isEvent name = true → given = .expression (handler value)) := by
  have known := targets_of_target? sets
  unfold target? at sets
  have counts : ¬ (isAbsent value (Name.isBoolean name) = true ∨ name = "class" ∨
      name = "classname") := by
    simp [known.present, known.notClass]
  rw [if_neg counts] at sets
  rw [add, if_neg (by simp [known.present]), if_neg (by simp [known.notClass])]
  split
  · rename_i style
    rw [if_pos style] at sets
    obtain ⟨object, given, rfl⟩ := Option.map_eq_some_iff.1 sets
    refine ⟨.expression object, ?_, fun event => ?_⟩
    · simp only [Gathered.attributes_addCustom, Gathered.addObject, given]
      rfl
    · have notEvent : Name.isEvent "style" = false := by decide
      rw [style, notEvent] at event
      cases event
  split
  · rename_i event
    rw [← known.isTarget, Name.target_of_isEvent event]
    exact ⟨_, rfl, fun _ => rfl⟩
  · rename_i notEvent
    have isTarget := known.isTarget
    rw [Name.target_of_not_isEvent (by simpa using notEvent)] at isTarget
    have property : Name.isProperty (Name.property name) = true := by
      rw [isTarget]
      exact known.isProperty
    obtain ⟨given, added⟩ := attributes_addProperty assets options tag gathered property value
    rw [isTarget] at added
    exact ⟨given, added, fun event => absurd event notEvent⟩

theorem names_add (gathered : Gathered) (name value : String) :
    (add assets options tag gathered name value).attributes.map (·.name) =
      gathered.attributes.map (·.name) ++ (target? name value).toList := by
  cases sets : target? name value with
  | none => rw [attributes_add_of_none assets options tag sets, Option.toList_none, List.append_nil]
  | some prop =>
    obtain ⟨given, added, _⟩ := attributes_add_of_some assets options tag sets gathered
    rw [added, List.map_append, List.map_singleton, Option.toList_some]

/-! ### The attributes of a tag -/

theorem names_gatherFrom (attributes : List (String × String)) (gathered : Gathered) :
    (gatherFrom assets options tag attributes gathered).attributes.map (·.name) =
      gathered.attributes.map (·.name) ++ targets attributes := by
  induction attributes generalizing gathered with
  | nil => exact (List.append_nil _).symm
  | cons first rest ih =>
    rw [gatherFrom_cons, ih, Step.next, names_add, List.append_assoc]
    have first_targets : targets (first :: rest) =
        (target? (Text.lower first.1) first.2).toList ++ targets rest := by
      rw [targets, List.filterMap_cons]
      cases target? (Text.lower first.1) first.2 <;> rfl
    rw [first_targets]
    rfl

/-- The names of the properties of a tag, in their order. -/
theorem names_properties (attributes : List (String × String)) (tables : Tables) :
    (properties assets options tag attributes tables).1.map (·.name) =
      targets attributes ++
        (classAttribute (gather assets options tag attributes tables).classes).map (·.name) := by
  have gathered : (gather assets options tag attributes tables).attributes.map (·.name) = _ :=
    names_gatherFrom assets options tag attributes { tables }
  rw [properties, List.map_append, gathered, List.map_nil, List.nil_append]

theorem name_of_mem_classAttribute {classes : List String} {attr : Jsx.Attribute}
    (mem : attr ∈ classAttribute classes) : attr.name = "className" := by
  unfold classAttribute at mem
  split at mem
  · cases mem
  · rw [List.mem_singleton.1 mem]

variable {assets options tag}

/-- A property of a tag is set by one of its attributes, or it is the one for the classes. -/
theorem name_of_mem_properties {attributes : List (String × String)} {tables : Tables}
    {attr : Jsx.Attribute} (mem : attr ∈ (properties assets options tag attributes tables).1) :
    attr.name ∈ targets attributes ∨ attr.name = "className" := by
  have isName := List.mem_map_of_mem (f := (·.name)) mem
  rw [names_properties, List.mem_append] at isName
  refine isName.imp_right fun last => ?_
  obtain ⟨other, isClass, same⟩ := List.mem_map.1 last
  rw [← same, name_of_mem_classAttribute isClass]

end Attribute

end JsxPages
