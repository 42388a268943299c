import JsxPages.Proofs.Attribute.Targets
import Mathlib.Data.List.Induction
/-!
# The classes of a tag

Classes come from two kinds of attributes: those that name them, and styles with custom properties,
each of which gets a class of its own. Their words are gathered in the order of the attributes
(`classWords`), where a style counts with the number of its class and so with the styles in front of
it. What is written is the first occurrence of every word, behind all other properties, and the
table of classes grows by one class for each of these styles and by nothing else
(`convert_classes`). Both follow attribute by attribute, from what one adds (`addsOnly_add`,
`classes_add_of_custom`).
-/

namespace JsxPages.Attribute

/-- The classes that an attribute names, given its name in lower case. -/
def namedClasses (name value : String) : List String :=
  if (name = "class" ∨ name = "classname") ∧ isAbsent value (Name.isBoolean name) = false then
    Text.words value
  else
    []

/-- The custom properties of an attribute, given its name in lower case; only a style has any. -/
def customProperties (name value : String) : List (String × String) :=
  if name = "style" ∧ isAbsent value (Name.isBoolean name) = false then
    (Style.ofText value).customProperties
  else
    []

/-- The words of all classes that some attributes give, where so many classes were minted before. -/
def classWords (stem : String) : Nat → List (String × String) → List String
  | _, [] => []
  | minted, attr :: rest =>
    if customProperties (Text.lower attr.1) attr.2 = [] then
      namedClasses (Text.lower attr.1) attr.2 ++ classWords stem minted rest
    else
      Text.words (Name.numbered stem (minted + 1)) ++ classWords stem (minted + 1) rest

/-- The custom properties of the styles among some attributes, of each style that has some. -/
def customStyles (attributes : List (String × String)) : List (List (String × String)) :=
  (attributes.map fun attr => customProperties (Text.lower attr.1) attr.2).filter (· ≠ [])

/-- The classes that are minted for some styles, where so many were minted before. -/
def mintedClasses (stem : String) (minted : Nat) (styles : List (List (String × String))) :
    List (String × List (String × String)) :=
  styles.mapIdx fun place declarations => (Name.numbered stem (minted + place + 1), declarations)

theorem mintedClasses_cons (stem : String) (minted : Nat) (style : List (String × String))
    (styles : List (List (String × String))) :
    mintedClasses stem minted (style :: styles) =
      (Name.numbered stem (minted + 1), style) :: mintedClasses stem (minted + 1) styles := by
  rw [mintedClasses, List.mapIdx_cons, mintedClasses]
  congr 2
  funext place declarations
  rw [show minted + (place + 1) + 1 = minted + 1 + place + 1 by omega]

theorem customStyles_cons (first : String × String) (rest : List (String × String)) :
    customStyles (first :: rest) =
      if customProperties (Text.lower first.1) first.2 = [] then customStyles rest
      else customProperties (Text.lower first.1) first.2 :: customStyles rest := by
  by_cases none : customProperties (Text.lower first.1) first.2 = []
  · rw [if_pos none, customStyles, List.map_cons, List.filter_cons_of_neg (by simpa using none)]
    rfl
  · rw [if_neg none, customStyles, List.map_cons, List.filter_cons_of_pos (by simpa using none)]
    rfl

/-! ### First occurrences -/

/-- Adding classes one by one keeps the first occurrences. -/
theorem foldl_addClass (names : List String) : names.foldl addClass [] = names.eraseDups := by
  induction names using List.reverseRecOn with
  | nil => rfl
  | append_singleton names name ih =>
    rw [List.foldl_append, ih, List.foldl_cons, List.foldl_nil, addClass, List.eraseDups_append]
    by_cases mem : name ∈ names
    · simp [mem, List.removeAll]
    · simp [mem, List.removeAll, List.eraseDups_cons]

theorem text_classAttribute (names : List String) :
    Jsx.attributesText (classAttribute names.eraseDups) =
      if names = [] then ""
      else " className=" ++ Jsx.quotedText (" ".intercalate names.eraseDups) := by
  cases names with
  | nil => rfl
  | cons name names =>
    have some : (name :: names).eraseDups.isEmpty = false := by
      rw [List.eraseDups_cons]
      rfl
    rw [classAttribute, some, if_neg Bool.false_ne_true, if_neg (List.cons_ne_nil _ _)]
    simp [Jsx.attributesText, Jsx.Attribute.text, Jsx.Value.text]

/-! ### One attribute -/

variable (assets : AssetMap) (options : Options) (tag : String)

/-- Some names are added to the classes of a tag, and the table of classes stays as it is. -/
def AddsOnly (names : List String) (gathered next : Gathered) : Prop :=
  next.classes = names.foldl addClass gathered.classes ∧
    next.tables.classes = gathered.tables.classes

theorem addsOnly_addObject (gathered : Gathered) (style : Style) :
    AddsOnly [] gathered (gathered.addObject style) := by
  unfold Gathered.addObject
  split
  · exact ⟨rfl, rfl⟩
  · exact ⟨rfl, rfl⟩

theorem addsOnly_addProperty (gathered : Gathered) (name value : String) :
    AddsOnly [] gathered (addProperty assets options tag gathered name value) := by
  unfold addProperty
  split
  · exact ⟨rfl, rfl⟩
  split
  · exact ⟨rfl, rfl⟩
  split
  · unfold Gathered.addImage
    generalize Image.resolve assets options.imagesDir gathered.tables.images value = resolved
    exact ⟨rfl, rfl⟩
  · exact ⟨rfl, rfl⟩

theorem addsOnly_add {name value : String} (none : customProperties name value = [])
    (gathered : Gathered) :
    AddsOnly (namedClasses name value) gathered
      (add assets options tag gathered name value) := by
  unfold add
  split
  · rename_i absent
    rw [namedClasses, absent, if_neg (by simp)]
    exact ⟨rfl, rfl⟩
  rename_i present
  rw [Bool.not_eq_true] at present
  split
  · rename_i isClass
    rw [namedClasses, if_pos ⟨isClass, present⟩]
    exact ⟨rfl, rfl⟩
  rename_i notClass
  rw [namedClasses, if_neg fun named => notClass named.1]
  split
  · rename_i style
    rw [customProperties, if_pos ⟨style, present⟩] at none
    simp only [Gathered.addCustom, none, List.isEmpty_nil, if_true]
    exact addsOnly_addObject gathered _
  split
  · exact ⟨rfl, rfl⟩
  · exact addsOnly_addProperty assets options tag gathered name value

/-- A style with custom properties mints one class, which the tag gets. -/
theorem classes_add_of_custom {name value : String} (some : customProperties name value ≠ [])
    (gathered : Gathered) :
    let next := add assets options tag gathered name value
    let minted := Name.numbered options.classStem (gathered.tables.classes.size + 1)
    next.classes = (Text.words minted).foldl addClass gathered.classes ∧
      next.tables.classes.classes =
        gathered.tables.classes.classes ++ [(minted, customProperties name value)] := by
  intro next minted
  have isStyle : name = "style" ∧ isAbsent value (Name.isBoolean name) = false := by
    by_contra other
    exact some (if_neg other)
  have custom : customProperties name value = (Style.ofText value).customProperties :=
    if_pos isStyle
  obtain ⟨rfl, present⟩ := isStyle
  rw [custom] at some ⊢
  obtain ⟨classes, tables⟩ := addsOnly_addObject gathered (.ofText value)
  have added : next = (gathered.addObject (.ofText value)).addCustom options.classStem
      (.ofText value) := by
    rw [show next = _ from add_style gathered value, if_neg (by simp [present])]
  rw [Gathered.addCustom, if_neg (by simpa using some), ClassTable.mint_eq, tables] at added
  rw [added]
  exact ⟨congrArg (fun before => (Text.words minted).foldl addClass before) classes, rfl⟩

/-! ### The attributes of a tag -/

theorem classes_gatherFrom (attributes : List (String × String)) (gathered : Gathered) :
    let behind := gatherFrom assets options tag attributes gathered
    let minted := gathered.tables.classes.size
    behind.classes =
        (classWords options.classStem minted attributes).foldl addClass gathered.classes ∧
      behind.tables.classes.classes = gathered.tables.classes.classes ++
        mintedClasses options.classStem minted (customStyles attributes) := by
  induction attributes generalizing gathered with
  | nil => exact ⟨rfl, (List.append_nil _).symm⟩
  | cons first rest ih =>
    dsimp only at ih ⊢
    let next := add assets options tag gathered (Text.lower first.1) first.2
    obtain ⟨classes, table⟩ := ih next
    rw [show gatherFrom assets options tag (first :: rest) gathered =
      gatherFrom assets options tag rest next from rfl, classes, table, classWords,
      customStyles_cons]
    by_cases none : customProperties (Text.lower first.1) first.2 = []
    · obtain ⟨added, same⟩ : AddsOnly _ gathered next :=
        addsOnly_add assets options tag none gathered
      rw [if_pos none, if_pos none, List.foldl_append, added, same]
      exact ⟨rfl, rfl⟩
    · obtain ⟨added, minted⟩ := classes_add_of_custom assets options tag none gathered
      have size : next.tables.classes.size = gathered.tables.classes.size + 1 := by
        rw [ClassTable.size, minted, List.length_append]
        rfl
      rw [if_neg none, if_neg none, List.foldl_append, mintedClasses_cons, size, added, minted,
        List.append_assoc]
      exact ⟨rfl, rfl⟩

/-- **Classes are merged into one attribute behind all others.** What is written for the attributes
of a tag are the properties that they set, in their order, and then, if and only if the attributes
give any classes, one `className` with the first occurrence of each of their words. Every style with
custom properties mints one class with exactly these, numbered on from the classes in the table, and
nothing else changes the table. -/
theorem convert_classes (attributes : List (String × String)) (tables : Tables) :
    let words := classWords options.classStem tables.classes.size attributes
    let converted := convert assets options tag attributes tables
    ∃ others : List Jsx.Attribute, others.map (·.name) = targets attributes ∧
      converted.1 = Jsx.attributesText others ++
        (if words = [] then ""
          else " className=" ++ Jsx.quotedText (" ".intercalate words.eraseDups)) ∧
      converted.2.classes.classes = tables.classes.classes ++
        (customStyles attributes).mapIdx fun place declarations =>
          (Name.numbered options.classStem (tables.classes.size + place + 1), declarations) := by
  intro words converted
  obtain ⟨classes, table⟩ := classes_gatherFrom assets options tag attributes { tables }
  have names := names_gatherFrom assets options tag attributes { tables }
  have gathered : gatherFrom assets options tag attributes { tables } =
      gather assets options tag attributes tables := rfl
  rw [gathered] at classes table names
  rw [foldl_addClass] at classes
  refine ⟨(gather assets options tag attributes tables).attributes, names, ?_, table⟩
  have written : converted.1 = Jsx.attributesText
      ((gather assets options tag attributes tables).attributes ++
        classAttribute (gather assets options tag attributes tables).classes) := rfl
  rw [written, classes, ← text_classAttribute, Jsx.attributesText, List.map_append,
    String.join_append]
  rfl

example : (convert {} {} "p" [("class", "a b"), ("style", "--x: 1"), ("classname", "b c")] {}).1 =
    " className=\"a b custom-var-1 c\"" := by
  decide +kernel

end JsxPages.Attribute
