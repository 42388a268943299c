import JsxPages.Proofs.Attribute.Classes
import JsxPages.Proofs.Name.Shared
import Mathlib.Data.List.Pairwise
/-!
# Which properties a tag has twice

Attributes are added one by one, and none looks at the properties that are there. So a tag has a
property twice if two of its attributes set it, or if one sets the property that the classes are
written as. With names that differ these are the attributes whose names meet (`names_nodup_iff`).
-/

namespace JsxPages.Attribute

variable {attributes : List (String × String)}

/-- Attributes with different names set a property twice where two of their names meet. -/
theorem nodup_targets_iff (different : (attributes.map fun attr => Text.lower attr.1).Nodup) :
    (targets attributes).Nodup ↔
      ∀ first ∈ attributes, ∀ second ∈ attributes, SetsProperty first → SetsProperty second →
        ¬ Name.Meet (Text.lower first.1) (Text.lower second.1) := by
  rw [List.Nodup, List.pairwise_map] at different
  rw [List.Nodup, targets, List.pairwise_filterMap]
  constructor
  · intro apart
    have free : attributes.Pairwise fun first second => SetsProperty first →
        SetsProperty second → ¬ Name.Meet (Text.lower first.1) (Text.lower second.1) := by
      refine apart.imp fun {first second} apart sets alsoSets meet => ?_
      obtain ⟨prop, sets⟩ := setsProperty_iff.1 sets
      obtain ⟨other, alsoSets⟩ := setsProperty_iff.1 alsoSets
      have same := (Name.target_eq_iff (Text.lower_lower first.1) (Text.lower_lower second.1)
        meet.1).2 meet
      rw [(targets_of_target? sets).isTarget, (targets_of_target? alsoSets).isTarget] at same
      exact apart prop sets other alsoSets same
    refine fun first isFirst second isSecond => free.forall_of_forall_of_flip ?_ ?_ isFirst isSecond
    · exact fun _ _ _ _ meet => meet.1 rfl
    · exact free.imp fun apart sets alsoSets meet => apart alsoSets sets meet.symm
  · intro free
    refine different.imp_of_mem fun {first second} isFirst isSecond different => ?_
    intro prop sets other alsoSets same
    have meet : Name.Meet (Text.lower first.1) (Text.lower second.1) := by
      rw [← Name.target_eq_iff (Text.lower_lower first.1) (Text.lower_lower second.1) different,
        (targets_of_target? sets).isTarget, (targets_of_target? alsoSets).isTarget, same]
    exact free first isFirst second isSecond (setsProperty_iff.2 ⟨prop, sets⟩)
      (setsProperty_iff.2 ⟨other, alsoSets⟩) meet

/-- No attribute but one whose name meets `class` sets the property of the classes. -/
theorem className_notMem_targets_iff :
    "className" ∉ targets attributes ↔
      ∀ attr ∈ attributes, SetsProperty attr → ¬ Name.Meet "class" (Text.lower attr.1) := by
  have className : Name.target "class" = "className" ∧ Text.lower "class" = "class" := by
    decide +kernel
  have meet_iff : ∀ {name value prop : String}, target? (Text.lower name) value = some prop →
      (prop = "className" ↔ Name.Meet "class" (Text.lower name)) := by
    intro name value prop sets
    have known := targets_of_target? sets
    rw [← Name.target_eq_iff className.2 (Text.lower_lower name) known.notClass.1.symm, className.1,
      known.isTarget, eq_comm]
  rw [mem_targets]
  constructor
  · intro none attr mem setsProperty meet
    obtain ⟨prop, sets⟩ := setsProperty_iff.1 setsProperty
    exact none ⟨attr, mem, (meet_iff sets).2 meet ▸ sets⟩
  · rintro free ⟨attr, mem, sets⟩
    exact free attr mem (setsProperty_iff.2 ⟨_, sets⟩) ((meet_iff sets).1 rfl)

theorem names_classAttribute (names : List String) :
    (classAttribute names.eraseDups).map (·.name) = if names = [] then [] else ["className"] := by
  cases names with
  | nil => rfl
  | cons name names =>
    rw [List.eraseDups_cons]
    rfl

/-- **A tag has no property twice if no names of its attributes meet.** Where the attributes have
different names, their properties have different names, if and only if no two attributes that set
properties have names that meet, and, if there are classes, none has a name that meets `class`. -/
theorem names_nodup_iff (assets : AssetMap) (options : Options) (tag : String) (tables : Tables)
    (different : (attributes.map fun attr => Text.lower attr.1).Nodup) :
    ((properties assets options tag attributes tables).1.map (·.name)).Nodup ↔
      (∀ first ∈ attributes, ∀ second ∈ attributes, SetsProperty first → SetsProperty second →
        ¬ Name.Meet (Text.lower first.1) (Text.lower second.1)) ∧
      (classWords options.classStem tables.classes.size attributes = [] ∨
        ∀ attr ∈ attributes, SetsProperty attr → ¬ Name.Meet "class" (Text.lower attr.1)) := by
  have classes : (gather assets options tag attributes tables).classes =
      (classWords options.classStem tables.classes.size attributes).eraseDups := by
    rw [← foldl_addClass]
    exact (classes_gatherFrom assets options tag attributes { tables }).1
  rw [names_properties, classes, names_classAttribute, List.nodup_append, nodup_targets_iff different,
    ← className_notMem_targets_iff]
  refine and_congr_right fun _ => ?_
  split
  · rename_i none
    simp [none]
  · rename_i some
    simp only [List.nodup_singleton, List.mem_singleton, forall_eq, true_and, some, false_or]
    rw [List.forall_mem_ne']

theorem names_nodup_label :
    let attributes := [("class", "wide"), ("for", "name"), ("onfocus", "show()")]
    (attributes.map fun attr => Text.lower attr.1).Nodup ∧
      ((properties {} {} "label" attributes {}).1.map (·.name)).Nodup :=
  ⟨by decide, (names_nodup_iff {} {} "label" {} (by decide)).2 (by decide +kernel)⟩

/-- The classes of `class` are written as `className`, and so is an attribute `class-name`. -/
theorem convert_className_twice :
    let attributes := [("class", "a"), ("class-name", "b")]
    (attributes.map fun attr => Text.lower attr.1).Nodup ∧
      (convert {} {} "p" attributes {}).1 = " className=\"b\" className=\"a\"" ∧
        ¬ ((properties {} {} "p" attributes {}).1.map (·.name)).Nodup := by
  decide +kernel

end JsxPages.Attribute
