import JsxPages.Jsx.Normalize
import JsxPages.Proofs.Tables.Entries
import JsxPages.Proofs.Text.Ascii
import JsxPages.Proofs.Text.Cuts
/-!
# Names of emitted attributes

Every name that an attribute is emitted under can be read back, and so can the property of every
name that was read (`inAttributeName_property`). Normalizing has no other spelling for the property
if the attribute came with a plain name: one from the tables of property names, one that keeps its
hyphens, or one without hyphens and colons (`agrees_property`).
-/

namespace JsxPages.Name

/-- Whether normalizing agrees with the property name of an attribute. -/
def isPlain (name : String) : Bool :=
  (ownProperty? name).isSome || keepsHyphens name ||
    !name.toList.contains '-' && !name.toList.contains ':'

/-- What normalizing asks of the name that an attribute is emitted under. -/
structure Agrees (name emitted : String) : Prop where
  notClass : Text.lower emitted ≠ "class"
  spelling : Jsx.propertyOf emitted = emitted
  notEvent : isEvent emitted = false
  boolean : isBoolean emitted = true → isBoolean name = true

/-- What is asked of a property name in the tables. -/
structure IsTabled (name own : String) : Prop where
  property : isProperty own = true
  notClass : Text.lower own ≠ "class"
  noHyphen : own.toList.contains '-' = false
  notEvent : isEvent own = false
  boolean : isBoolean own = true → isBoolean name = true

theorem mem_of_ownProperty? {name own : String} (known : ownProperty? name = some own) :
    (name, own) ∈ htmlProperties ++ svgProperties := by
  rw [ownProperty?, Option.or_eq_some_iff] at known
  rcases known with html | ⟨_, svg⟩
  · exact List.mem_append_left _ (mem_of_lookup html)
  · exact List.mem_append_right _ (mem_of_lookup svg)

theorem isTabled_of_ownProperty? {name own : String} (known : ownProperty? name = some own) :
    IsTabled name own := by
  have all : ∀ entry ∈ htmlProperties ++ svgProperties,
      isProperty entry.2 = true ∧ Text.lower entry.2 ≠ "class" ∧
        entry.2.toList.contains '-' = false ∧ isEvent entry.2 = false ∧
          (isBoolean entry.2 = true → isBoolean entry.1 = true) := by
    decide +kernel
  obtain ⟨property, notClass, noHyphen, notEvent, boolean⟩ := all _ (mem_of_ownProperty? known)
  exact ⟨property, notClass, noHyphen, notEvent, boolean⟩

/-- The tables of property names agree with normalizing. -/
theorem agrees_of_ownProperty? {name own : String} (known : ownProperty? name = some own) :
    Agrees name own := by
  have tabled := isTabled_of_ownProperty? known
  have keeps : ¬ (own.toList.contains '-' = true ∧ ¬ keepsHyphens (Text.lower own) = true) := by
    rw [tabled.noHyphen]
    simp
  exact ⟨tabled.notClass, if_neg keeps, tabled.notEvent, tabled.boolean⟩

theorem exists_of_keepsHyphens {name : String} (keeps : keepsHyphens name = true) :
    ∃ rest, name.toList = "data-".toList ++ rest ∨ name.toList = "aria-".toList ++ rest := by
  rcases Bool.or_eq_true_iff.1 keeps with data | aria
  · obtain ⟨rest, whole⟩ := List.isPrefixOf_iff_prefix.1 data
    exact ⟨rest, .inl whole.symm⟩
  · obtain ⟨rest, whole⟩ := List.isPrefixOf_iff_prefix.1 aria
    exact ⟨rest, .inr whole.symm⟩

theorem agrees_of_keepsHyphens {name : String} (lower : Text.lower name = name)
    (keeps : keepsHyphens name = true) : Agrees name name := by
  have plain : ∀ other, keepsHyphens other = false → name ≠ other := by
    rintro other loses rfl
    rw [keeps] at loses
    cases loses
  refine ⟨?_, if_neg fun hyphen => hyphen.2 (lower.symm ▸ keeps), ?_, id⟩
  · rw [lower]
    exact plain "class" (by decide +kernel)
  · rw [isEvent]
    obtain ⟨rest, whole | whole⟩ := exists_of_keepsHyphens keeps <;> rw [whole] <;> rfl

/-- **The property of a plain name is spelled as normalizing spells it.** -/
theorem agrees_property {name : String} (lower : Text.lower name = name)
    (plain : isPlain name = true) (notClass : name ≠ "class") (notEvent : isEvent name = false) :
    Agrees name (property name) := by
  rw [property]
  cases known : ownProperty? name with
  | some own => exact agrees_of_ownProperty? known
  | none =>
    dsimp only
    split
    · rename_i keeps
      exact agrees_of_keepsHyphens lower keeps
    · rename_i loses
      have bare : name.toList.contains '-' = false ∧ name.toList.contains ':' = false := by
        simpa [isPlain, known, loses] using plain
      rw [bare.1, bare.2]
      have keeps : ¬ (name.toList.contains '-' = true ∧
          ¬ keepsHyphens (Text.lower name) = true) := by
        rw [bare.1]
        simp
      exact ⟨lower.symm ▸ notClass, if_neg keeps, notEvent, id⟩

/-! ### Characters of names -/

theorem inAttributeName_of_isIdentifierChar {c : Char}
    (inName : (isIdentifierChar c || c == '-') = true) : Jsx.inAttributeName c = true := by
  simp only [isIdentifierChar, Bool.or_eq_true, beq_iff_eq] at inName
  rcases inName with ((alphanumeric | rfl) | rfl) | rfl
  · exact Text.of_isAlphanum (P := fun c => Jsx.inAttributeName c = true) (by decide +kernel)
      alphanumeric
  · decide
  · decide
  · decide

theorem isIdentifierChar_of_start {c : Char} (start : isIdentifierStart c = true) :
    isIdentifierChar c = true := by
  simp only [isIdentifierStart, isIdentifierChar, Char.isAlphanum, Bool.or_eq_true] at start ⊢
  exact start.imp_left (·.imp_left .inl)

/-- The name of a property can be read back. -/
theorem inAttributeName_of_isProperty {name : String} (readable : isProperty name = true) :
    name ≠ "" ∧ ∀ c ∈ name.toList, Jsx.inAttributeName c = true := by
  unfold isProperty at readable
  split at readable
  · cases readable
  · rename_i c rest spelled
    obtain ⟨start, others⟩ := Bool.and_eq_true_iff.1 readable
    rw [spelled]
    refine ⟨fun empty => ?_, List.forall_mem_cons.2 ⟨?_, fun d mem => ?_⟩⟩
    · rw [empty] at spelled
      cases spelled
    · exact inAttributeName_of_isIdentifierChar (by simp [isIdentifierChar_of_start start])
    · exact inAttributeName_of_isIdentifierChar (List.all_eq_true.1 others d mem)

theorem inAttributeName_toLower {c : Char} (inName : Jsx.inAttributeName c = true) :
    Jsx.inAttributeName c.toLower = true := by
  rcases Text.toLower_cases c with alpha | same
  · exact inAttributeName_of_isIdentifierChar
      (by simp [isIdentifierChar, Text.isAlphanum_of_isAlpha alpha])
  · rwa [same]

theorem inAttributeName_toUpper {c : Char} (inName : Jsx.inAttributeName c = true) :
    Jsx.inAttributeName c.toUpper = true := by
  rcases Text.toUpper_cases c with alpha | same
  · exact inAttributeName_of_isIdentifierChar
      (by simp [isIdentifierChar, Text.isAlphanum_of_isAlpha alpha])
  · rwa [same]

/-- The code points that end the name of an attribute. -/
def nameEnds : Text.Ranges :=
  Text.blankRanges ++ Jsx.attributeNameEnds.map fun c => (c.toNat, c.toNat)

theorem inAttributeName_of_outside {c : Char}
    (outside : ∀ range ∈ nameEnds, c.toNat < range.1 ∨ range.2 < c.toNat) :
    Jsx.inAttributeName c = true := by
  obtain ⟨notBlank, notEnd⟩ := List.forall_mem_append.1 outside
  simp only [Jsx.inAttributeName, Bool.and_eq_true, Bool.not_eq_true', Text.isBlank,
    Text.Ranges.contains, List.any_eq_false, List.contains_eq_mem, decide_eq_false_iff_not,
    decide_eq_true_eq]
  refine ⟨fun range mem => ?_, fun mem => ?_⟩
  · have apart := notBlank range mem
    omega
  · have apart := notEnd _ (List.mem_map_of_mem mem)
    omega

theorem inAttributeName_ofNat {code : Nat}
    (outside : ∀ range ∈ nameEnds, code < range.1 ∨ range.2 < code) :
    Jsx.inAttributeName (Char.ofNat code) = true := by
  by_cases valid : code.isValidChar
  · have same : Char.ofNat code = Char.ofNatAux code valid := dif_pos valid
    rw [same]
    exact inAttributeName_of_outside outside
  · have none : Char.ofNat code = '\x00' := dif_neg valid
    rw [none]
    decide

/-- The capitals of a run lie outside, because those of its first and its last letter lie on one
side of all that ends a name. -/
theorem outside_of_run {run : Text.CaseRun} (mem : run ∈ Text.caseRuns) {code : Nat}
    (inRun : run.contains code = true) :
    ∀ range ∈ nameEnds, (code + run.distance).toNat < range.1 ∨
      range.2 < (code + run.distance).toNat := by
  have ends : ∀ run ∈ Text.caseRuns, 0 ≤ run.first + run.distance ∧ ∀ range ∈ nameEnds,
      run.last + run.distance < range.1 ∨ range.2 < run.first + run.distance := by decide +kernel
  intro range isEnd
  obtain ⟨positive, apart⟩ := ends run mem
  have side := apart range isEnd
  simp only [Text.CaseRun.contains, Bool.and_eq_true, decide_eq_true_eq] at inRun
  obtain ⟨⟨fromFirst, toLast⟩, _⟩ := inRun
  omega

/-- Capitals of all scripts can stand in the names of attributes. -/
theorem inAttributeName_upper {c : Char} (inName : Jsx.inAttributeName c = true) :
    ∀ d ∈ Text.upper c, Jsx.inAttributeName d = true := by
  have long : ∀ entry ∈ Text.longUppers, ∀ code ∈ entry.2,
      Jsx.inAttributeName (Char.ofNat code) = true := by decide +kernel
  unfold Text.upper
  split
  · exact List.forall_mem_singleton.2 (inAttributeName_toUpper inName)
  split
  · rename_i codes found
    obtain ⟨before, after, whole, _⟩ := List.lookup_eq_some_iff.1 found
    exact List.forall_mem_map.2 (long (c.toNat, codes) (by simp [whole]))
  split
  · rename_i run found
    have inRun := List.find?_some found
    have outside := outside_of_run (List.mem_of_find?_eq_some found) inRun
    exact List.forall_mem_singleton.2 (inAttributeName_ofNat outside)
  · exact List.forall_mem_singleton.2 inName

theorem inAttributeName_lower {name : String}
    (inName : ∀ c ∈ name.toList, Jsx.inAttributeName c = true) :
    ∀ c ∈ (Text.lower name).toList, Jsx.inAttributeName c = true := by
  rw [Text.lower, String.toList_ofList]
  exact List.forall_mem_map.2 fun c mem => inAttributeName_toLower (inName c mem)

theorem inAttributeName_camelTail {text : List Char}
    (inName : ∀ c ∈ text, Jsx.inAttributeName c = true) (capital : Bool) :
    ∀ c ∈ camelTail capital text, Jsx.inAttributeName c = true := by
  induction text generalizing capital with
  | nil => simp [camelTail]
  | cons c text ih =>
    obtain ⟨first, others⟩ := List.forall_mem_cons.1 inName
    rw [camelTail]
    split
    · exact ih others true
    · refine List.forall_mem_cons.2 ⟨?_, ih others false⟩
      split
      · exact inAttributeName_toUpper first
      · exact first

theorem inAttributeName_camelCase {name : String}
    (inName : ∀ c ∈ name.toList, Jsx.inAttributeName c = true) :
    ∀ c ∈ (camelCase name).toList, Jsx.inAttributeName c = true := by
  rw [camelCase, String.toList_ofList]
  refine inAttributeName_camelTail (fun c mem => inName c ?_) false
  exact (List.dropWhile_suffix isSeparator).subset mem

theorem inAttributeName_capitalize {text : String}
    (inName : ∀ c ∈ text.toList, Jsx.inAttributeName c = true) :
    ∀ c ∈ (Text.capitalize text).toList, Jsx.inAttributeName c = true := by
  unfold Text.capitalize
  split
  · simp
  · rename_i c rest spelled
    rw [spelled] at inName
    obtain ⟨first, others⟩ := List.forall_mem_cons.1 inName
    rw [String.toList_ofList]
    exact List.forall_mem_append.2 ⟨inAttributeName_upper first, others⟩

theorem inAttributeName_namespaced {name : String}
    (inName : ∀ c ∈ name.toList, Jsx.inAttributeName c = true) :
    ∀ c ∈ (namespaced name).toList, Jsx.inAttributeName c = true := by
  unfold namespaced
  split
  · exact inName
  · rename_i space rest cut
    rw [(Text.cutFirst_eq_some cut).1] at inName
    obtain ⟨inSpace, behind⟩ := List.forall_mem_append.1 inName
    obtain ⟨_, inRest⟩ := List.forall_mem_cons.1 behind
    split
    · simp
    · rw [String.toList_append]
      refine List.forall_mem_append.2 ⟨inAttributeName_lower ?_,
        inAttributeName_capitalize (inAttributeName_camelCase ?_)⟩
      · rwa [String.toList_ofList]
      · rwa [String.toList_ofList]

/-- **The property of a name that can be read back can be read back**, unless it is empty. -/
theorem inAttributeName_property {name : String}
    (inName : ∀ c ∈ name.toList, Jsx.inAttributeName c = true) :
    ∀ c ∈ (property name).toList, Jsx.inAttributeName c = true := by
  unfold property
  split
  · rename_i emitted known
    exact (inAttributeName_of_isProperty (isTabled_of_ownProperty? known).property).2
  split
  · exact inName
  split
  · exact inAttributeName_namespaced inName
  split
  · exact inAttributeName_camelCase inName
  · exact inName

/-! ### Event handlers -/

theorem isAlpha_of_mem_capitalize {text : List Char} (alpha : ∀ c ∈ text, c.isAlpha = true) :
    ∀ c ∈ (Text.capitalize (String.ofList text)).toList, c.isAlpha = true := by
  rw [Text.capitalize, String.toList_ofList]
  cases text with
  | nil => simp
  | cons c rest =>
    obtain ⟨first, others⟩ := List.forall_mem_cons.1 alpha
    have ascii : c.toNat < 128 := Text.toNat_lt_of_isAlphanum (Text.isAlphanum_of_isAlpha first)
    simp only [String.toList_ofList, Text.upper, if_pos ascii, List.singleton_append]
    exact List.forall_mem_cons.2 ⟨(Text.isAlpha_toUpper c).trans first, others⟩

/-- The property of an event handler is `on` with letters behind it. -/
theorem exists_eventProperty {name : String} (event : isEvent name = true) :
    ∃ rest, (eventProperty name).toList = 'o' :: 'n' :: rest ∧ ∀ c ∈ rest, c.isAlpha = true := by
  have table : ∀ entry ∈ handlerProperties, ∃ rest, entry.2.toList = 'o' :: 'n' :: rest ∧
      ∀ c ∈ rest, c.isAlpha = true := by
    have all : ∀ entry ∈ handlerProperties,
        entry.2.toList = 'o' :: 'n' :: entry.2.toList.drop 2 ∧
          (entry.2.toList.drop 2).all Char.isAlpha = true := by
      decide +kernel
    exact fun entry mem => ⟨_, (all entry mem).1, List.all_eq_true.1 (all entry mem).2⟩
  unfold eventProperty
  split
  · rename_i own known
    exact table _ (mem_of_lookup known)
  · unfold isEvent at event
    split at event
    · rename_i o n rest spelled
      simp only [Bool.and_eq_true, beq_iff_eq, List.all_eq_true] at event
      obtain ⟨⟨⟨isO, isN⟩, _⟩, alpha⟩ := event
      have lower : (Text.lower name).toList = 'o' :: 'n' :: rest.map Char.toLower := by
        rw [Text.lower, String.toList_ofList, spelled, List.map_cons, List.map_cons, isO, isN]
      rw [lower]
      refine ⟨(Text.capitalize (String.ofList (rest.map Char.toLower))).toList, ?_,
        isAlpha_of_mem_capitalize ?_⟩
      · simp
      · intro c mem
        obtain ⟨d, inRest, rfl⟩ := List.mem_map.1 mem
        exact (Text.isAlpha_toLower d).trans (alpha d inRest)
    · cases event

theorem isAlpha_of_mem_eventProperty {name : String} (event : isEvent name = true) :
    ∀ c ∈ (eventProperty name).toList, c.isAlpha = true := by
  obtain ⟨rest, spelled, alpha⟩ := exists_eventProperty event
  rw [spelled]
  exact List.forall_mem_cons.2 ⟨by decide, List.forall_mem_cons.2 ⟨by decide, alpha⟩⟩

theorem isProperty_eventProperty {name : String} (event : isEvent name = true) :
    isProperty (eventProperty name) = true := by
  have letters := isAlpha_of_mem_eventProperty event
  obtain ⟨rest, spelled, _⟩ := exists_eventProperty event
  rw [spelled] at letters
  rw [isProperty, spelled, Bool.and_eq_true]
  refine ⟨by decide, List.all_eq_true.2 fun c mem => ?_⟩
  have alpha := letters c (List.mem_cons_of_mem _ mem)
  simp [isIdentifierChar, Text.isAlphanum_of_isAlpha alpha]

/-- Normalizing has no other spelling for the property of an event handler. -/
theorem eventProperty_normal {name : String} (event : isEvent name = true) :
    Text.lower (eventProperty name) ≠ "class" ∧
      Jsx.propertyOf (eventProperty name) = eventProperty name := by
  refine ⟨?_, if_neg ?_⟩
  · obtain ⟨rest, spelled, _⟩ := exists_eventProperty event
    intro isClass
    have first := congrArg (fun text => text.toList.head?) isClass
    simp [Text.lower, spelled] at first
  · rintro ⟨hyphen, _⟩
    have isLetter := isAlpha_of_mem_eventProperty event '-' (by simpa using hyphen)
    revert isLetter
    decide

end JsxPages.Name
