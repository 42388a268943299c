import JsxPages.Proofs.Attribute.Braces
import JsxPages.Proofs.Document.Normalized
/-!
# Which expressions of attributes module code accepts

A property is set to an expression for a style, for an image, for a truth value and for a value in
braces that looks like a path or a number. The first three are expressions of module code. The last
is copied, and it is the only one that module code may refuse, the handlers of events aside
(`expressions_valid_iff`).

What an attribute can give is said once (`Step.gives_cases`): one property at most, from one of five
sources.
-/

namespace JsxPages.Attribute

open Script (IsExpression)

/-! ### Values in braces -/

theorem simple_of_expressionBody? {value body : String} (simple : expressionBody? value = some body) :
    isPath body.toList = true ∨ isNumber body.toList = true := by
  unfold expressionBody? at simple
  split at simple
  · split at simple
    · dsimp only at simple
      split at simple
      · rename_i shape
        obtain rfl := Option.some.inj simple
        rwa [String.toList_ofList]
      · cases simple
    · cases simple
  · cases simple

/-- No value that stands for none holds a path or a number. -/
theorem not_isAbsent_of_expressionBody? {value body : String}
    (simple : expressionBody? value = some body) (boolean : Bool) :
    isAbsent value boolean = false := by
  by_contra absent
  have none : Text.trim value ∈ "" :: emptyValues := by
    rw [Bool.not_eq_false, isAbsent, Bool.or_eq_true, Bool.and_eq_true] at absent
    rcases absent with isEmpty | ⟨isEmpty, _⟩
    · exact List.mem_cons_of_mem _ (List.contains_iff_mem.1 isEmpty)
    · rw [String.isEmpty_iff] at isEmpty
      rw [isEmpty]
      decide
  have nothing : ∀ text ∈ "" :: emptyValues, expressionBody? text = Option.none := by decide
  have trimmed : ∀ text ∈ "" :: emptyValues, Text.trim text = text := by decide
  have same : expressionBody? value = expressionBody? (Text.trim value) := by
    simp only [expressionBody?, trimmed _ none]
  rw [same, nothing _ none] at simple
  cases simple

theorem plainValue_cases {name value code : String}
    (given : plainValue name value = .expression code) :
    (code = "true" ∨ code = "false") ∨ expressionBody? value = some code := by
  unfold plainValue at given
  split at given
  · rename_i body simple
    obtain rfl := Jsx.Value.expression.inj given
    exact .inr simple
  · unfold booleanValue at given
    dsimp only at given
    split_ifs at given
    · exact .inl (.inl (Jsx.Value.expression.inj given).symm)
    · exact .inl (.inr (Jsx.Value.expression.inj given).symm)

/-- Whether an attribute, given its name in lower case, is set to its value or to what that holds in
braces. -/
def takesBraces (tag name : String) : Bool :=
  !(["class", "classname", "style"].contains name) && !Name.isEvent name &&
    !Name.startsWith "data-" name && !isImage tag name && Name.isProperty (Name.property name)

/-- The path or the number that an attribute as written has in braces. -/
def braced? (tag : String) (attr : String × String) : Option String :=
  if takesBraces tag (Text.lower attr.1) then expressionBody? attr.2 else none

variable {assets : AssetMap} {options : Options} {tag : String}

theorem add_braces {name : String} (takes : takesBraces tag name = true) (gathered : Gathered)
    (value : String) :
    add assets options tag gathered name value =
      if isAbsent value (Name.isBoolean name) then gathered
      else gathered.addAttribute (Name.property name) (plainValue name value) := by
  simp only [takesBraces, Bool.and_eq_true, Bool.not_eq_true', List.contains_eq_mem,
    decide_eq_false_iff_not, List.mem_cons, List.not_mem_nil, or_false, not_or] at takes
  obtain ⟨⟨⟨⟨⟨notClass, notClassname, notStyle⟩, notEvent⟩, notData⟩, notImage⟩, property⟩ := takes
  simp [add, addProperty, notClass, notClassname, notStyle, notEvent, notData, notImage, property]

/-! ### Attribute by attribute -/

namespace Step

/-- What an attribute adds, and from what. -/
inductive Gives (assets : AssetMap) (options : Options) (step : Step) : Jsx.Attribute → Prop where
  | object {object : String} (given : (Style.ofText step.value).objectLiteral? = some object) :
      Gives assets options step ⟨"style", .expression object⟩
  | handler (event : Name.isEvent step.name = true) :
      Gives assets options step ⟨Name.eventProperty step.name, .expression (handler step.value)⟩
  | text (name text : String) : Gives assets options step ⟨name, .literal text⟩
  | image {identifier : String} (name : String)
      (imported : identifier ∈ (step.next assets options).tables.images.identifiers) :
      Gives assets options step ⟨name, .expression identifier⟩
  | property (takes : takesBraces step.tag step.name = true) :
      Gives assets options step ⟨Name.property step.name, plainValue step.name step.value⟩

theorem gives_image {step : Step} (image : isImage step.tag step.name = true) :
    (step.next assets options).attributes = step.gathered.attributes ∨
      ∃ attr, step.Gives assets options attr ∧
        (step.next assets options).attributes = step.gathered.attributes ++ [attr] := by
  have added : step.next assets options = _ := add_image image step.gathered step.value
  split at added
  · exact .inl (by rw [added])
  right
  rcases Image.resolve_cases assets options.imagesDir step.gathered.tables.images step.value with
    ⟨filename, _, _, imported⟩ | ⟨plain, _⟩
  · rw [Gathered.addImage, imported] at added
    refine ⟨⟨step.name, .expression _⟩, .image step.name ?_, by rw [added]; rfl⟩
    rw [added]
    exact List.mem_map_of_mem (Image.Imports.mem_register _ filename)
  · rw [Gathered.addImage] at added
    cases reference : (Image.resolve assets options.imagesDir step.gathered.tables.images
        step.value).1 with
    | imported identifier => exact absurd reference (plain identifier)
    | path path => exact ⟨_, .text step.name path, by simp [added, reference, Gathered.addAttribute]⟩
    | unchanged =>
      exact ⟨_, .text step.name step.value, by simp [added, reference, Gathered.addAttribute]⟩

/-- An attribute adds one property at most. -/
theorem gives_cases (assets : AssetMap) (options : Options) (step : Step) :
    (step.next assets options).attributes = step.gathered.attributes ∨
      ∃ attr, step.Gives assets options attr ∧
        (step.next assets options).attributes = step.gathered.attributes ++ [attr] := by
  cases image : isImage step.tag step.name with
  | true => exact gives_image image
  | false =>
    -- the kinds of attributes in the order in which they are told apart
    simp only [next, add]
    split
    · exact .inl rfl
    split
    · exact .inl rfl
    rename_i notClass
    split
    · rw [Gathered.attributes_addCustom, Gathered.addObject]
      split
      · rename_i object given
        exact .inr ⟨_, .object given, rfl⟩
      · exact .inl rfl
    rename_i notStyle
    split
    · rename_i event
      exact .inr ⟨_, .handler event, rfl⟩
    rename_i notEvent
    unfold addProperty
    split
    · exact .inl rfl
    rename_i property
    split
    · obtain ⟨text, given⟩ := exists_dataValue step.value
      rw [given]
      exact .inr ⟨_, .text _ text, rfl⟩
    rename_i notData
    rw [if_neg (by simp [image])]
    have takes : takesBraces step.tag step.name = true := by
      simp_all [takesBraces]
    exact .inr ⟨_, .property takes, rfl⟩

/-- A property is set to an expression. -/
def Sets (assets : AssetMap) (options : Options) (step : Step) (name code : String) : Prop :=
  (step.next assets options).attributes =
    step.gathered.attributes ++ [⟨name, .expression code⟩]

theorem Sets.gives {step : Step} {name code : String} (sets : step.Sets assets options name code) :
    step.Gives assets options ⟨name, .expression code⟩ := by
  rcases step.gives_cases assets options with same | ⟨attr, gives, added⟩
  · rw [Sets, same] at sets
    simp at sets
  · obtain rfl := List.singleton_inj.1 (List.append_cancel_left (sets.symm.trans added))
    exact gives

/-- Handlers aside, what is set to an expression is set to one of module code, or to what stands in
braces. -/
theorem Sets.isExpression_or_braced {step : Step} {name code : String}
    (sets : step.Sets assets options name code) (notEvent : Name.isEvent step.name = false)
    (bindable : step.gathered.tables.images.Bindable) :
    IsExpression code.toList ∨
      takesBraces step.tag step.name = true ∧ expressionBody? step.value = some code := by
  have gives := sets.gives
  generalize attr : (⟨name, .expression code⟩ : Jsx.Attribute) = given at gives
  cases gives with
  | object object =>
    obtain rfl := Jsx.Value.expression.inj (Jsx.Attribute.mk.inj attr).2
    exact .inl (.object _ (Script.isObject_objectLiteral (Style.named_ofText step.value) object))
  | handler event =>
    rw [notEvent] at event
    cases event
  | text => cases (Jsx.Attribute.mk.inj attr).2
  | image name imported =>
    obtain rfl := Jsx.Value.expression.inj (Jsx.Attribute.mk.inj attr).2
    exact .inl (Script.isExpression_of_isBinding (Step.bindable_next bindable _ imported))
  | property takes =>
    rcases plainValue_cases (Jsx.Attribute.mk.inj attr).2.symm with truth | simple
    · exact .inl (.truth (truth.imp (congrArg String.toList) (congrArg String.toList)))
    · exact .inr ⟨takes, simple⟩

/-- What stands in braces is what the property is set to. -/
theorem sets_of_braced {step : Step} {body : String}
    (takes : takesBraces step.tag step.name = true)
    (simple : expressionBody? step.value = some body) :
    step.Sets assets options (Name.property step.name) body := by
  rw [Sets, next, add_braces takes, not_isAbsent_of_expressionBody? simple, plainValue, simple]
  rfl

end Step

/-! ### The attributes of a tag -/

theorem exists_of_mem_steps {attributes : List (String × String)} {gathered : Gathered}
    (bindable : gathered.tables.images.Bindable) {step : Step}
    (mem : step ∈ steps assets options tag attributes gathered) :
    step.gathered.tables.images.Bindable ∧
      ∃ attr ∈ attributes, step = Step.of tag attr step.gathered := by
  refine ⟨?_, written_of_mem_steps mem⟩
  induction attributes generalizing gathered with
  | nil => cases mem
  | cons first rest ih =>
    rcases List.mem_cons.1 mem with rfl | later
    · exact bindable
    · exact ih (Step.bindable_next bindable) later

theorem exists_mem_steps {attributes : List (String × String)} {attr : String × String}
    (mem : attr ∈ attributes) (gathered : Gathered) :
    ∃ before, Step.of tag attr before ∈ steps assets options tag attributes gathered := by
  induction attributes generalizing gathered with
  | nil => cases mem
  | cons first rest ih =>
    rcases List.mem_cons.1 mem with rfl | later
    · exact ⟨gathered, List.mem_cons_self⟩
    · obtain ⟨before, isStep⟩ := ih later ((Step.of tag first gathered).next assets options)
      exact ⟨before, List.mem_cons_of_mem _ isStep⟩

theorem mem_gatherFrom_iff {attributes : List (String × String)} {gathered : Gathered}
    {attr : Jsx.Attribute} :
    attr ∈ (gatherFrom assets options tag attributes gathered).attributes ↔
      attr ∈ gathered.attributes ∨ ∃ step ∈ steps assets options tag attributes gathered,
        (step.next assets options).attributes = step.gathered.attributes ++ [attr] := by
  induction attributes generalizing gathered with
  | nil => simp [gatherFrom, steps]
  | cons first rest ih =>
    rw [gatherFrom_cons, ih, steps, List.exists_mem_cons_iff, ← or_assoc]
    refine or_congr ?_ Iff.rfl
    have before : (Step.of tag first gathered).gathered = gathered := rfl
    rcases Step.gives_cases assets options (.of tag first gathered) with same | ⟨added, _, more⟩
    · simp [same, before]
    · simp [more, before, eq_comm]

/-- The expressions of a tag are those that its attributes are set to, one by one. -/
theorem mem_properties_iff {attributes : List (String × String)} {tables : Tables}
    {name code : String} :
    ⟨name, .expression code⟩ ∈ (properties assets options tag attributes tables).1 ↔
      ∃ step ∈ steps assets options tag attributes { tables }, step.Sets assets options name code := by
  have notClass : ∀ classes, ⟨name, .expression code⟩ ∉ classAttribute classes := by
    intro classes mem
    unfold classAttribute at mem
    split at mem
    · cases mem
    · cases List.mem_singleton.1 mem
  have gathered : ⟨name, .expression code⟩ ∈
        (gatherFrom assets options tag attributes { tables }).attributes ↔ _ := mem_gatherFrom_iff
  simp only [List.not_mem_nil, false_or] at gathered
  rw [properties, List.mem_append, or_iff_left (notClass _)]
  exact gathered

/-- **Module code accepts all expressions of a tag but some that were written in braces.** Whatever was
converted before with the same tables: the properties that are set to expressions are those that the
attributes set one by one; and every such expression but the handlers of events is an expression of
module code if and only if no attribute has something in braces that module code refuses. -/
theorem expressions_valid_iff (assets : AssetMap) (options : Options) (tag : String)
    (attributes : List (String × String)) (earlier : List Document.Call) :
    let tables := Document.recordAll {} earlier
    let steps := steps assets options tag attributes { tables }
    (∀ name code,
      ⟨name, .expression code⟩ ∈ (properties assets options tag attributes tables).1 ↔
        ∃ step ∈ steps, step.Sets assets options name code) ∧
    ((∀ step ∈ steps, Name.isEvent step.name = false →
        ∀ name code, step.Sets assets options name code → IsExpression code.toList) ↔
      ∀ attr ∈ attributes, ∀ body, braced? tag attr = some body → ¬ Refused body.toList) := by
  intro tables steps
  have bindable : tables.images.Bindable :=
    Document.bindable_recordAll Image.Imports.bindable_empty earlier
  refine ⟨fun name code => mem_properties_iff, ?_, ?_⟩
  · -- what is in braces is what the property is set to, so it was accepted
    intro accepted attr mem body braced
    obtain ⟨takes, simple⟩ := Option.ite_none_right_eq_some.1 braced
    obtain ⟨before, isStep⟩ := exists_mem_steps mem { tables }
    have sets : (Step.of tag attr before).Sets assets options _ body :=
      Step.sets_of_braced takes simple
    have notEvent : Name.isEvent (Text.lower attr.1) = false := by
      simp only [takesBraces, Bool.and_eq_true, Bool.not_eq_true'] at takes
      exact takes.1.1.1.2
    exact (isExpression_iff (simple_of_expressionBody? simple)).1
      (accepted _ isStep notEvent _ _ sets)
  · intro free step isStep notEvent name code sets
    obtain ⟨bound, attr, isAttr, same⟩ := exists_of_mem_steps bindable isStep
    rcases sets.isExpression_or_braced notEvent bound with accepted | ⟨takes, simple⟩
    · exact accepted
    · rw [same] at takes simple
      refine (isExpression_iff (simple_of_expressionBody? simple)).2 (free attr isAttr code ?_)
      exact Option.ite_none_right_eq_some.2 ⟨takes, simple⟩

/-- A reserved word, an idle zero and a digit that is not ASCII are copied out of their braces. -/
theorem convert_refused :
    (convert {} {} "p" [("title", "\x7bclass\x7d"), ("tabindex", "\x7b007\x7d"),
        ("lang", "\x7b\u0663\x7d")] {}).1 =
      " title=\x7bclass\x7d tabIndex=\x7b007\x7d lang=\x7b\u0663\x7d" ∧
    ∀ body ∈ ["class", "007", "\u0663"], ¬ IsExpression body.toList := by
  refine ⟨by decide +kernel, ?_⟩
  have path : ¬ IsExpression "class".toList := by
    rw [isExpression_iff_of_isPath (by decide)]
    decide
  have numbers : ∀ body ∈ ["007", "\u0663"],
      isNumber body.toList = true ∧ Script.isDecimal body.toList = false := by decide +kernel
  intro body mem
  rcases List.mem_cons.1 mem with rfl | later
  · exact path
  · obtain ⟨number, notDecimal⟩ := numbers body later
    rw [isExpression_iff_of_isNumber number, notDecimal]
    decide

end JsxPages.Attribute
