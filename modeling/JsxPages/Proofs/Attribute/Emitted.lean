import JsxPages.Proofs.Attribute.Readable
/-!
# Emitted attributes stay as they are

Where the attributes of a tag are plain (`IsPlain`), each attribute that is emitted for them can be
read back and has a spelling that normalizing leaves alone (`properties_stable`). The first holds
without plain names (`properties_readable`); for the second the proof follows the attributes one by
one.
-/

namespace JsxPages

theorem Jsx.normal_of_agrees {name emitted : String} {value : Value}
    (agrees : Name.Agrees name emitted)
    (boolean : ∀ text, value = .literal text → Name.isBoolean name = true →
      text ≠ "true" ∧ text ≠ "false") :
    Attribute.IsNormal ⟨emitted, value⟩ :=
  ⟨agrees.notClass, agrees.spelling, fun _ _ => agrees.notEvent,
    fun text same isBoolean => boolean text same (agrees.boolean isBoolean)⟩

namespace Attribute

open Jsx (Closed)

/-- What is asked of an attribute as written: a plain name, and closed code in a handler. -/
structure IsPlain (attr : String × String) : Prop where
  name : Name.isPlain (Text.lower attr.1) = true
  script : Name.isEvent (Text.lower attr.1) = true → Closed attr.2.toList

instance (attr : String × String) : Decidable (IsPlain attr) :=
  decidable_of_iff (Name.isPlain (Text.lower attr.1) = true ∧
      (Name.isEvent (Text.lower attr.1) = true → Closed attr.2.toList))
    ⟨fun plain => ⟨plain.1, plain.2⟩, fun plain => ⟨plain.name, plain.script⟩⟩

theorem normal_handler {name : String} (event : Name.isEvent name = true) (code : String) :
    Jsx.Attribute.IsNormal ⟨Name.eventProperty name, .expression code⟩ := by
  obtain ⟨notClass, property⟩ := Name.eventProperty_normal event
  exact ⟨notClass, property, nofun, nofun⟩

theorem normal_object (object : String) :
    Jsx.Attribute.IsNormal ⟨"style", .expression object⟩ := by
  have agrees : Name.Agrees "style" "style" := ⟨by decide, by decide, by decide, id⟩
  exact Jsx.normal_of_agrees agrees nofun

theorem normal_className (classes : List String) :
    ∀ attr ∈ classAttribute classes, attr.IsNormal := by
  intro attr mem
  unfold classAttribute at mem
  split at mem
  · cases mem
  · obtain rfl := List.mem_singleton.1 mem
    have agrees : Name.Agrees "class" "className" := Name.agrees_of_ownProperty? rfl
    exact Jsx.normal_of_agrees agrees fun _ _ boolean => absurd boolean (by decide)

namespace Gathered

def IsNormal (gathered : Gathered) : Prop :=
  ∀ attr ∈ gathered.attributes, attr.IsNormal

variable {gathered : Gathered}

theorem IsNormal.addAttribute (normal : gathered.IsNormal) {name : String} {value : Jsx.Value}
    (added : Jsx.Attribute.IsNormal ⟨name, value⟩) : (gathered.addAttribute name value).IsNormal :=
  List.forall_mem_append.2 ⟨normal, List.forall_mem_singleton.2 added⟩

theorem IsNormal.addObject (normal : gathered.IsNormal) (style : Style) :
    (gathered.addObject style).IsNormal := by
  unfold Gathered.addObject
  split
  · exact normal.addAttribute (normal_object _)
  · exact normal

theorem IsNormal.addCustom (normal : gathered.IsNormal) (stem : String) (style : Style) :
    (gathered.addCustom stem style).IsNormal := by
  unfold Gathered.addCustom
  split <;> exact normal

theorem IsNormal.addImage (normal : gathered.IsNormal) {name emitted : String}
    (agrees : Name.Agrees name emitted) (notBoolean : Name.isBoolean name = false)
    (assets : AssetMap) (imagesDir value : String) :
    (gathered.addImage assets imagesDir emitted value).IsNormal := by
  have filed (images : Image.Imports) :
      IsNormal { gathered with tables := { gathered.tables with images } } := normal
  refine (filed _).addAttribute (Jsx.normal_of_agrees agrees fun _ _ boolean => ?_)
  rw [notBoolean] at boolean
  cases boolean

end Gathered

/-! ### The attributes of a tag -/

variable {assets : AssetMap} {options : Options} {tag : String} {gathered : Gathered}

theorem isBoolean_of_data {name : String} (lower : Text.lower name = name)
    (data : Name.startsWith "data-" name = true) : Name.isBoolean name = false := by
  have none : ∀ boolean ∈ Name.booleans, Name.startsWith "data-" boolean = false := by decide
  rw [Name.isBoolean, lower, List.contains_eq_mem, decide_eq_false_iff_not]
  intro boolean
  rw [none name boolean] at data
  cases data

theorem normal_addProperty (normal : gathered.IsNormal) {name : String}
    (lower : Text.lower name = name) (plain : Name.isPlain name = true) (notClass : name ≠ "class")
    (notEvent : Name.isEvent name = false) (value : String) :
    (addProperty assets options tag gathered name value).IsNormal := by
  have agrees := Name.agrees_property lower plain notClass notEvent
  unfold addProperty
  split
  · exact normal
  split
  · rename_i data
    refine normal.addAttribute (Jsx.normal_of_agrees agrees fun _ _ boolean => ?_)
    rw [isBoolean_of_data lower data] at boolean
    cases boolean
  split
  · rename_i image
    have notBoolean : ∀ name ∈ ["src", "poster"], Name.isBoolean name = false := by decide
    exact normal.addImage agrees (notBoolean name (by simpa using isImage_cases image)) _ _ _
  · exact normal.addAttribute
      (Jsx.normal_of_agrees agrees fun _ given boolean => ne_of_plainValue boolean given)

theorem normal_add (normal : gathered.IsNormal) {attr : String × String} (plain : IsPlain attr) :
    (add assets options tag gathered (Text.lower attr.1) attr.2).IsNormal := by
  simp only [add]
  split
  · exact normal
  split
  · exact normal
  rename_i notClass
  split
  · exact (normal.addObject _).addCustom _ _
  split
  · rename_i event
    exact normal.addAttribute (normal_handler event _)
  · rename_i notEvent
    exact normal_addProperty normal (Text.lower_lower attr.1) plain.name
      (fun same => notClass (.inl same)) (by simpa using notEvent) attr.2

theorem normal_gatherFrom (normal : gathered.IsNormal) {attributes : List (String × String)}
    (plain : ∀ attr ∈ attributes, IsPlain attr) :
    (gatherFrom assets options tag attributes gathered).IsNormal := by
  induction attributes generalizing gathered with
  | nil => exact normal
  | cons attr attributes ih =>
    obtain ⟨first, others⟩ := List.forall_mem_cons.1 plain
    rw [gatherFrom_cons]
    exact ih (normal_add normal first) others

theorem properties_normal {tables : Tables} {attributes : List (String × String)}
    (plain : ∀ attr ∈ attributes, IsPlain attr) :
    ∀ attr ∈ (properties assets options tag attributes tables).1, attr.IsNormal := by
  have normal : (gather assets options tag attributes tables).IsNormal :=
    normal_gatherFrom (by simp [Gathered.IsNormal]) plain
  exact List.forall_mem_append.2 ⟨normal, normal_className _⟩

/-- **The attributes of a tag are read back and stay as they are** if they were written plainly. -/
theorem properties_stable {tables : Tables} (bindable : tables.images.Bindable)
    {attributes : List (String × String)} (plain : ∀ attr ∈ attributes, IsPlain attr) :
    ∀ attr ∈ (properties assets options tag attributes tables).1, attr.IsStable := by
  intro attr mem
  have scripts : ∀ attr ∈ attributes, HasClosedScript attr :=
    fun attr mem => (plain attr mem).script
  exact ⟨properties_readable bindable scripts attr mem, properties_normal plain attr mem⟩

end Attribute

end JsxPages
