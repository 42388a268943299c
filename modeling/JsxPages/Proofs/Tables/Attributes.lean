import JsxPages.Attribute.Convert
import JsxPages.Proofs.Tables.Entries
/-!
# What attributes record

Attributes are converted one after the other, each with what was gathered from those in front of it
(`Attribute.Step`). Two kinds record something: a reference that becomes the identifier of an image
(`Step.Imports`) and a style that gets a class of its own (`Step.Mints`). Both are said by what the
step gives and not by how: an attribute is added, or a class is. What such a step gives is backed by
the tables right behind it (`Step.Imports.exists_file`, `Step.Mints.backed`), and nothing enters the
tables in any other way (`Step.of_image`, `Step.of_class`).
-/

namespace JsxPages

namespace Image

/-- The file that a reference names, be it an image or not. -/
def file? (assets : AssetMap) (imagesDir value : String) : Option String :=
  let address := Text.trim value
  if isAbsolute address then none else (assets.resolve? address).or (guess? imagesDir address)

/-- A reference to an image registers its file, any other leaves the imports alone. -/
theorem resolve_cases (assets : AssetMap) (imagesDir : String) (imports : Imports)
    (value : String) :
    (∃ filename, file? assets imagesDir value = some filename ∧ isImage filename = true ∧
      resolve assets imagesDir imports value =
        (.imported (imports.register filename).1, (imports.register filename).2)) ∨
    ((∀ identifier, (resolve assets imagesDir imports value).1 ≠ .imported identifier) ∧
      (resolve assets imagesDir imports value).2 = imports) := by
  have refers (filename : String) {otherwise : Reference}
      (plain : ∀ identifier, otherwise ≠ .imported identifier) :
      (isImage filename = true ∧ refer imports filename otherwise =
        (.imported (imports.register filename).1, (imports.register filename).2)) ∨
      ((∀ identifier, (refer imports filename otherwise).1 ≠ .imported identifier) ∧
        (refer imports filename otherwise).2 = imports) := by
    unfold refer
    split
    · rename_i image
      exact .inl ⟨image, rfl⟩
    · exact .inr ⟨plain, rfl⟩
  simp only [resolve, file?]
  split
  · exact .inr ⟨by simp, rfl⟩
  cases assets.resolve? (Text.trim value) with
  | some filename =>
    exact (refers filename (by simp)).imp_left fun image => ⟨filename, rfl, image⟩
  | none =>
    cases guess? imagesDir (Text.trim value) with
    | some filename =>
      exact (refers filename (by simp)).imp_left fun image => ⟨filename, rfl, image⟩
    | none => exact .inr ⟨by simp, rfl⟩

end Image

namespace Attribute

namespace Gathered

/-- What was gathered with more behind it. -/
structure Grown (earlier later : Gathered) : Prop where
  attributes : earlier.attributes <+: later.attributes
  classes : earlier.classes <+: later.classes
  tables : earlier.tables.Grown later.tables

theorem Grown.refl (gathered : Gathered) : Grown gathered gathered :=
  ⟨List.prefix_refl _, List.prefix_refl _, .refl _⟩

theorem Grown.trans {earlier middle later : Gathered} (first : Grown earlier middle)
    (second : Grown middle later) : Grown earlier later :=
  ⟨first.attributes.trans second.attributes, first.classes.trans second.classes,
    first.tables.trans second.tables⟩

theorem prefix_foldl_addClass (classes names : List String) :
    classes <+: names.foldl addClass classes := by
  induction names generalizing classes with
  | nil => exact List.prefix_refl _
  | cons name names ih =>
    refine List.IsPrefix.trans ?_ (ih _)
    unfold addClass
    split
    · exact List.prefix_refl _
    · exact List.prefix_append _ _

theorem mem_foldl_addClass {classes names : List String} {name : String} (mem : name ∈ names) :
    name ∈ names.foldl addClass classes := by
  induction names generalizing classes with
  | nil => cases mem
  | cons first names ih =>
    rcases List.mem_cons.1 mem with rfl | later
    · refine (prefix_foldl_addClass _ names).subset ?_
      unfold addClass
      split
      · rename_i there
        simpa using there
      · simp
    · exact ih later

theorem grown_addAttribute (gathered : Gathered) (name : String) (value : Jsx.Value) :
    Grown gathered (gathered.addAttribute name value) :=
  ⟨List.prefix_append _ _, List.prefix_refl _, .refl _⟩

theorem grown_addClasses (gathered : Gathered) (value : String) :
    Grown gathered (gathered.addClasses value) :=
  ⟨List.prefix_refl _, prefix_foldl_addClass _ _, .refl _⟩

theorem grown_addObject (gathered : Gathered) (style : Style) :
    Grown gathered (gathered.addObject style) := by
  unfold addObject
  split
  · exact grown_addAttribute gathered _ _
  · exact .refl gathered

theorem tables_addObject (gathered : Gathered) (style : Style) :
    (gathered.addObject style).tables = gathered.tables := by
  unfold addObject
  split <;> rfl

theorem attributes_addCustom (stem : String) (gathered : Gathered) (style : Style) :
    (gathered.addCustom stem style).attributes = gathered.attributes := by
  unfold addCustom
  split <;> rfl

theorem grown_addCustom (stem : String) (gathered : Gathered) (style : Style) :
    Grown gathered (gathered.addCustom stem style) := by
  unfold addCustom
  split
  · exact .refl gathered
  · exact ⟨List.prefix_refl _, prefix_foldl_addClass _ _,
      ⟨List.prefix_refl _, List.prefix_append _ _⟩⟩

theorem grown_addImage (assets : AssetMap) (imagesDir : String) (gathered : Gathered)
    (name value : String) : Grown gathered (gathered.addImage assets imagesDir name value) := by
  have growth : gathered.tables.images.entries <+:
      (Image.resolve assets imagesDir gathered.tables.images value).2.entries := by
    rcases Image.resolve_cases assets imagesDir gathered.tables.images value with
      ⟨filename, _, _, imported⟩ | ⟨_, same⟩
    · rw [imported]
      exact Image.Imports.prefix_register _ _
    · simp [same]
  unfold addImage
  generalize Image.resolve assets imagesDir gathered.tables.images value = resolved at growth ⊢
  exact ⟨List.prefix_append _ _, List.prefix_refl _, growth, List.prefix_refl _⟩

end Gathered

variable {assets : AssetMap} {options : Options} {tag name : String}

/-! ### The three kinds of attributes -/

theorem isImage_cases (image : isImage tag name = true) : name = "src" ∨ name = "poster" := by
  simp only [isImage, Bool.or_eq_true, Bool.and_eq_true, beq_iff_eq] at image
  exact image.imp_right And.left

/-- A reference to an image is added under its own name. -/
theorem add_image (image : isImage tag name = true) (gathered : Gathered) (value : String) :
    add assets options tag gathered name value =
      if isAbsent value (Name.isBoolean name) then gathered
      else gathered.addImage assets options.imagesDir name value := by
  have plain : ∀ name ∈ ["src", "poster"], name ≠ "class" ∧ name ≠ "classname" ∧ name ≠ "style" ∧
      Name.isEvent name = false ∧ Name.property name = name ∧ Name.isProperty name = true ∧
      Name.startsWith "data-" name = false := by decide +kernel
  obtain ⟨notClass, notClassname, notStyle, notEvent, own, property, notData⟩ :=
    plain name (by simpa using isImage_cases image)
  simp [add, addProperty, notClass, notClassname, notStyle, notEvent, own, property, notData, image]

theorem add_style (gathered : Gathered) (value : String) :
    add assets options tag gathered "style" value =
      if isAbsent value (Name.isBoolean "style") then gathered
      else (gathered.addObject (.ofText value)).addCustom options.classStem (.ofText value) := by
  simp [add]

theorem grown_addProperty (notImage : isImage tag name = false) (gathered : Gathered)
    (value : String) :
    (gathered.Grown (addProperty assets options tag gathered name value)) ∧
      (addProperty assets options tag gathered name value).tables = gathered.tables := by
  unfold addProperty
  split
  · exact ⟨.refl gathered, rfl⟩
  split
  · exact ⟨gathered.grown_addAttribute _ _, rfl⟩
  split
  · rename_i image
    rw [notImage] at image
    cases image
  · exact ⟨gathered.grown_addAttribute _ _, rfl⟩

/-- Any other attribute leaves the tables alone. -/
theorem grown_add_other (notImage : isImage tag name = false) (notStyle : name ≠ "style")
    (gathered : Gathered) (value : String) :
    gathered.Grown (add assets options tag gathered name value) ∧
      (add assets options tag gathered name value).tables = gathered.tables := by
  simp only [add, notStyle, if_false]
  split
  · exact ⟨.refl gathered, rfl⟩
  split
  · exact ⟨gathered.grown_addClasses value, rfl⟩
  split
  · exact ⟨gathered.grown_addAttribute _ _, rfl⟩
  · exact grown_addProperty notImage gathered value

/-- Nothing that was gathered is lost. -/
theorem grown_add (assets : AssetMap) (options : Options) (tag : String) (gathered : Gathered)
    (name value : String) : gathered.Grown (add assets options tag gathered name value) := by
  cases image : isImage tag name with
  | true =>
    rw [add_image image]
    split
    · exact .refl gathered
    · exact gathered.grown_addImage _ _ _ _
  | false =>
    by_cases style : name = "style"
    · rw [style, add_style]
      split
      · exact .refl gathered
      · exact (gathered.grown_addObject _).trans (Gathered.grown_addCustom _ _ _)
    · exact (grown_add_other image style gathered value).1

/-! ### Attribute by attribute -/

/-- An attribute of a tag, its name in lower case, with what was gathered from those in front. -/
structure Step where
  tag : String
  name : String
  value : String
  gathered : Gathered
  deriving DecidableEq

namespace Step

def next (assets : AssetMap) (options : Options) (step : Step) : Gathered :=
  add assets options step.tag step.gathered step.name step.value

/-- A reference to an image becomes this identifier. -/
def Imports (assets : AssetMap) (options : Options) (step : Step) (identifier : String) : Prop :=
  isImage step.tag step.name = true ∧
    (step.next assets options).attributes =
      step.gathered.attributes ++ [⟨step.name, .expression identifier⟩]

/-- A class of this name is minted. -/
def Mints (assets : AssetMap) (options : Options) (step : Step) (name : String) : Prop :=
  ∃ declarations, (step.next assets options).tables.classes.classes =
    step.gathered.tables.classes.classes ++ [(name, declarations)]

/-- What a step records. -/
inductive Records (assets : AssetMap) (options : Options) (step : Step) : Prop where
  | nothing (tables : (step.next assets options).tables = step.gathered.tables)
      (plain : ∀ identifier, ¬ step.Imports assets options identifier)
  | image (filename : String)
      (file : Image.file? assets options.imagesDir step.value = some filename)
      (isImage : isImage step.tag step.name = true)
      (attributes : (step.next assets options).attributes = step.gathered.attributes ++
        [⟨step.name, .expression (step.gathered.tables.images.register filename).1⟩])
      (tables : (step.next assets options).tables =
        { step.gathered.tables with
          images := (step.gathered.tables.images.register filename).2 })
  | style (isStyle : step.name = "style")
      (tables : (step.next assets options).tables =
        { step.gathered.tables with
          classes := (step.gathered.tables.classes.mint options.classStem
            (Style.ofText step.value).customProperties).2 })
      (classes : ∀ word ∈ Text.words (Name.numbered options.classStem
        (step.gathered.tables.classes.size + 1)), word ∈ (step.next assets options).classes)

/-- An attribute that adds nothing imports nothing. -/
theorem not_imports_of_eq {step : Step} (same : step.next assets options = step.gathered)
    (identifier : String) : ¬ step.Imports assets options identifier := by
  rintro ⟨_, added⟩
  rw [same] at added
  simp at added

theorem records_image (assets : AssetMap) (options : Options) {step : Step}
    (image : isImage step.tag step.name = true) : step.Records assets options := by
  have added : step.next assets options = _ := add_image image step.gathered step.value
  split at added
  · exact .nothing (by rw [added]) (not_imports_of_eq added)
  rcases Image.resolve_cases assets options.imagesDir step.gathered.tables.images step.value with
    ⟨filename, file, _, imported⟩ | ⟨plain, same⟩
  · refine .image filename file image ?_ ?_ <;> rw [added, Gathered.addImage, imported] <;> rfl
  · refine .nothing ?_ ?_
    · rw [added, Gathered.addImage]
      simp only [Gathered.addAttribute, same]
    · -- the attribute is added, but with a text as its value
      rintro identifier ⟨_, attributes⟩
      rw [added, Gathered.addImage] at attributes
      cases reference : (Image.resolve assets options.imagesDir step.gathered.tables.images
          step.value).1 with
      | imported other => exact plain other reference
      | path | unchanged => simp [Gathered.addAttribute, reference] at attributes

theorem records_style (assets : AssetMap) (options : Options) {step : Step}
    (style : step.name = "style") (notImage : isImage step.tag step.name = false) :
    step.Records assets options := by
  have added : step.next assets options =
      if isAbsent step.value (Name.isBoolean "style") then step.gathered
      else (step.gathered.addObject (.ofText step.value)).addCustom options.classStem
        (.ofText step.value) := by
    rw [next, style, add_style]
  have notImports : ∀ identifier, ¬ step.Imports assets options identifier := by
    intro identifier imports
    rw [imports.1] at notImage
    cases notImage
  split at added
  · exact .nothing (by rw [added]) notImports
  rw [Gathered.addCustom, Gathered.tables_addObject] at added
  split at added
  · exact .nothing (by rw [added, Gathered.tables_addObject]) notImports
  · refine .style style (by rw [added]; rfl) fun word mem => ?_
    rw [added]
    exact Gathered.mem_foldl_addClass mem

theorem records (assets : AssetMap) (options : Options) (step : Step) :
    step.Records assets options := by
  cases image : isImage step.tag step.name with
  | true => exact records_image assets options image
  | false =>
    by_cases style : step.name = "style"
    · exact records_style assets options style image
    · refine .nothing (grown_add_other image style step.gathered step.value).2 ?_
      intro identifier imports
      rw [imports.1] at image
      cases image

variable {step : Step}

/-- An identifier that a reference becomes is that of the file that the reference names. -/
theorem Imports.exists_file {identifier : String}
    (imports : step.Imports assets options identifier) :
    ∃ filename, Image.file? assets options.imagesDir step.value = some filename ∧
      (filename, identifier) ∈ (step.next assets options).tables.images.entries := by
  cases step.records assets options with
  | nothing tables plain => exact absurd imports (plain identifier)
  | image filename file isImage attributes tables =>
    have same := imports.2.symm.trans attributes
    obtain rfl : identifier = (step.gathered.tables.images.register filename).1 := by
      simpa using same
    exact ⟨filename, file, by rw [tables]; exact Image.Imports.mem_register _ _⟩
  | style isStyle tables classes =>
    have image := imports.1
    rw [isStyle] at image
    exact absurd (isImage_cases image) (by decide)

/-- A class that is minted is that of the custom properties of a style, and the tag gets it. -/
theorem Mints.backed {name : String} (mints : step.Mints assets options name) :
    step.name = "style" ∧
      name = Name.numbered options.classStem (step.gathered.tables.classes.size + 1) ∧
      (name, (Style.ofText step.value).customProperties) ∈
        (step.next assets options).tables.classes.classes ∧
      ∀ word ∈ Text.words name, word ∈ (step.next assets options).classes := by
  obtain ⟨declarations, minted⟩ := mints
  cases step.records assets options with
  | nothing tables plain =>
    rw [tables] at minted
    simp at minted
  | image filename file isImage attributes tables =>
    rw [tables] at minted
    simp at minted
  | style isStyle tables classes =>
    rw [tables, ClassTable.mint_eq] at minted
    obtain ⟨rfl, rfl⟩ : Name.numbered options.classStem _ = name ∧ _ = declarations := by
      simpa using minted
    exact ⟨isStyle, rfl, by rw [tables]; exact ClassTable.mem_mint _ _ _, classes⟩

/-- An image gets into the tables only as one that the markup refers to. -/
theorem of_image {entry : String × String}
    (mem : entry ∈ (step.next assets options).tables.images.entries) :
    entry ∈ step.gathered.tables.images.entries ∨
      step.Imports assets options entry.2 := by
  cases step.records assets options with
  | nothing tables plain => exact .inl (by rwa [tables] at mem)
  | image filename file isImage attributes tables =>
    rw [tables] at mem
    rcases step.gathered.tables.images.register_cases filename with
      ⟨identifier, _, same⟩ | ⟨_, identifier, _, added⟩
    · rw [same] at mem
      exact .inl mem
    · rw [added] at mem attributes
      refine (List.mem_append.1 mem).imp_right fun last => ?_
      obtain rfl := List.mem_singleton.1 last
      exact ⟨isImage, attributes⟩
  | style isStyle tables classes => exact .inl (by rwa [tables] at mem)

/-- A class gets into the tables only as one that a tag has. -/
theorem of_class {entry : String × List (String × String)}
    (mem : entry ∈ (step.next assets options).tables.classes.classes) :
    entry ∈ step.gathered.tables.classes.classes ∨ step.Mints assets options entry.1 := by
  cases step.records assets options with
  | nothing tables plain => exact .inl (by rwa [tables] at mem)
  | image filename file isImage attributes tables => exact .inl (by rwa [tables] at mem)
  | style isStyle tables classes =>
    have after := congrArg (·.classes.classes) tables
    rw [tables, ClassTable.mint_eq] at mem
    refine (List.mem_append.1 mem).imp_right fun last => ?_
    obtain rfl := List.mem_singleton.1 last
    exact ⟨_, after⟩

/-- Nothing that was gathered is lost. -/
theorem grown_next (assets : AssetMap) (options : Options) (step : Step) :
    step.gathered.Grown (step.next assets options) :=
  grown_add assets options step.tag step.gathered step.name step.value

theorem sound_next (sound : step.gathered.tables.Sound) :
    (step.next assets options).tables.Sound := by
  cases step.records assets options with
  | nothing tables plain => rwa [tables]
  | image filename file isImage attributes tables =>
    rw [tables]
    exact ⟨sound.images.register filename, sound.classes⟩
  | style isStyle tables classes =>
    rw [tables]
    exact ⟨sound.images, sound.classes.mint _ _⟩

end Step

/-! ### The attributes of a tag -/

/-- An attribute as written, with what was gathered from those in front. -/
def Step.of (tag : String) (written : String × String) (gathered : Gathered) : Step :=
  ⟨tag, Text.lower written.1, written.2, gathered⟩

/-- What is gathered behind some attributes. -/
def gatherFrom (assets : AssetMap) (options : Options) (tag : String)
    (attributes : List (String × String)) (gathered : Gathered) : Gathered :=
  attributes.foldl
    (fun gathered attr => add assets options tag gathered (Text.lower attr.1) attr.2) gathered

/-- The attributes of a tag, each with what was gathered before. -/
def steps (assets : AssetMap) (options : Options) (tag : String) :
    List (String × String) → Gathered → List Step
  | [], _ => []
  | first :: rest, gathered =>
    Step.of tag first gathered ::
      steps assets options tag rest ((Step.of tag first gathered).next assets options)

theorem gatherFrom_cons (first : String × String) (rest : List (String × String))
    (gathered : Gathered) :
    gatherFrom assets options tag (first :: rest) gathered =
      gatherFrom assets options tag rest ((Step.of tag first gathered).next assets options) :=
  rfl

theorem grown_gatherFrom (attributes : List (String × String)) (gathered : Gathered) :
    gathered.Grown (gatherFrom assets options tag attributes gathered) := by
  induction attributes generalizing gathered with
  | nil => exact .refl gathered
  | cons first rest ih =>
    rw [gatherFrom_cons]
    exact (Step.grown_next assets options (.of tag first gathered)).trans (ih _)

theorem grown_of_mem_steps {attributes : List (String × String)} {gathered : Gathered} {step : Step}
    (mem : step ∈ steps assets options tag attributes gathered) :
    gathered.Grown step.gathered ∧
      (step.next assets options).Grown (gatherFrom assets options tag attributes gathered) := by
  induction attributes generalizing gathered with
  | nil => cases mem
  | cons first rest ih =>
    rw [steps] at mem
    rw [gatherFrom_cons]
    rcases List.mem_cons.1 mem with rfl | later
    · exact ⟨.refl gathered, grown_gatherFrom rest _⟩
    · obtain ⟨before, behind⟩ := ih later
      exact ⟨(Step.grown_next assets options _).trans before, behind⟩

theorem written_of_mem_steps {attributes : List (String × String)} {gathered : Gathered}
    {step : Step} (mem : step ∈ steps assets options tag attributes gathered) :
    ∃ attr ∈ attributes, step = Step.of tag attr step.gathered := by
  induction attributes generalizing gathered with
  | nil => cases mem
  | cons first rest ih =>
    rcases List.mem_cons.1 mem with rfl | later
    · exact ⟨first, List.mem_cons_self, rfl⟩
    · obtain ⟨attr, isAttr, same⟩ := ih later
      exact ⟨attr, List.mem_cons_of_mem _ isAttr, same⟩

theorem sound_gatherFrom (attributes : List (String × String)) {gathered : Gathered}
    (sound : gathered.tables.Sound) :
    (gatherFrom assets options tag attributes gathered).tables.Sound := by
  induction attributes generalizing gathered with
  | nil => exact sound
  | cons first rest ih =>
    rw [gatherFrom_cons]
    exact ih (Step.sound_next sound)

/-- What is in the tables behind the attributes of a tag was there or came with one of them. -/
theorem exists_step (there : Tables → Prop) (found : Step → Prop)
    (of_next : ∀ step : Step, there (step.next assets options).tables →
      there step.gathered.tables ∨ found step)
    {attributes : List (String × String)} {gathered : Gathered}
    (behind : there (gatherFrom assets options tag attributes gathered).tables) :
    there gathered.tables ∨ ∃ step ∈ steps assets options tag attributes gathered, found step := by
  induction attributes generalizing gathered with
  | nil => exact .inl behind
  | cons first rest ih =>
    rw [gatherFrom_cons] at behind
    rw [steps]
    rcases ih behind with earlier | ⟨other, later, isFound⟩
    · exact (of_next _ earlier).imp_right fun isFound => ⟨_, List.mem_cons_self, isFound⟩
    · exact .inr ⟨other, List.mem_cons_of_mem _ later, isFound⟩

end Attribute

end JsxPages
