import JsxPages.Proofs.Jsx.Settled
import JsxPages.Proofs.Name.Spelling
/-!
# Normalized start tags, read again

What normalizing writes for a start tag is read back with an attribute for each one that the tag
has, whatever follows it, as long as all of them keep a name. A name is lost if it has no spelling as
a property (`normalized_name_eq_empty_iff`). An attribute that is written without a name is not read
as one: without a value nothing is left of it, and the equals sign of a value belongs to the
attribute in front, if that has no value of its own, or ends the reading. So a tag never gets back as
many attributes as it had if one of them lost its name (`length_attributes_le`).
-/

namespace JsxPages.Jsx

/-! ### Names that are lost -/

theorem propertyOf_eq_empty_iff {name : String} (some : name ≠ "") :
    propertyOf name = "" ↔ Name.IsUnspelled (Text.lower name) := by
  have hyphen : '-' ∈ (Text.lower name).toList ↔ '-' ∈ name.toList :=
    Text.mem_lower_iff rfl
  unfold propertyOf
  split
  · rename_i respelled
    exact Name.property_eq_empty_iff (hyphen.2 (by simpa using respelled.1))
  · rename_i kept
    refine iff_of_false some fun unspelled => kept ⟨?_, ?_⟩
    · simpa using hyphen.1 unspelled.hyphen
    · simp [unspelled.loses]

namespace WrittenAttribute

variable {attr : WrittenAttribute}

/-- An attribute of which everything that is written can be read back: the name, if there is one,
and the value. -/
structure HasReadableParts (attr : WrittenAttribute) : Prop where
  name : ∀ c ∈ attr.name.toList, inAttributeName c = true
  value : ∀ value, attr.value = some value → value.IsReadable

/-- An attribute that becomes no function. -/
def IsNoHandler (attr : WrittenAttribute) : Prop :=
  Name.isEvent attr.name = true → attr.value.bind WrittenValue.text? = none

instance (attr : WrittenAttribute) : Decidable attr.IsNoHandler :=
  inferInstanceAs (Decidable (_ → _))

theorem hasReadableParts_normalized (readable : attr.IsReadable) (noHandler : attr.IsNoHandler) :
    attr.normalized.HasReadableParts := by
  rcases attr.normalized_cases with ⟨_, same⟩ | ⟨script, given, event, _⟩ | ⟨_, _, same⟩
  · rw [same]
    have isProperty : Name.isProperty "className" = true := by decide
    exact ⟨(Name.inAttributeName_of_isProperty isProperty).2, readable.value⟩
  · rw [noHandler event] at given
    cases given
  · rw [same]
    exact ⟨inAttributeName_propertyOf readable.name, isReadable_valueOf readable⟩

/-- **A name is lost** if it has no spelling, in whatever letter case it is written. -/
theorem normalized_name_eq_empty_iff (readable : attr.IsReadable) (noHandler : attr.IsNoHandler) :
    attr.normalized.name = "" ↔ Name.IsUnspelled (Text.lower attr.name) := by
  rcases attr.normalized_cases with ⟨isClass, same⟩ | ⟨script, given, event, _⟩ | ⟨_, _, same⟩
  · rw [same, isClass]
    have spelled : ("className" : String) ≠ "" := by decide
    exact iff_of_false spelled (by decide +kernel)
  · rw [noHandler event] at given
    cases given
  · rw [same]
    exact propertyOf_eq_empty_iff readable.some

end WrittenAttribute

/-! ### Attributes without a name -/

theorem dropWhile_isBlank_space (text : List Char) :
    (' ' :: text).dropWhile Text.isBlank = text.dropWhile Text.isBlank :=
  List.dropWhile_cons_of_pos (by decide)

theorem scanAssignment_blank (text : List Char) :
    scanAssignment (' ' :: text) = scanAssignment text ∨
      scanAssignment (' ' :: text) = some (none, ' ' :: text) := by
  unfold scanAssignment
  rw [dropWhile_isBlank_space]
  split
  · exact .inl rfl
  · exact .inr rfl

theorem scanAttributes_blank (text : List Char) :
    scanAttributes (' ' :: text) = scanAttributes text := by
  rw [scanAttributes]
  split
  · rename_i ends
    symm
    rw [scanAttributes]
    split
    · rfl
    · rename_i begins
      rw [dropWhile_isBlank_space, begins] at ends
      cases ends
  · rename_i c behind begins
    rw [dropWhile_isBlank_space] at begins
    symm
    rw [scanAttributes]
    split
    · rename_i ends
      rw [ends] at begins
      cases begins
    · rename_i also
      rw [also] at begins
      obtain ⟨rfl, rfl⟩ := List.cons.inj begins
      rfl

theorem scanAttributes_of_equals {text rest : List Char}
    (begins : text.dropWhile Text.isBlank = '=' :: rest) : scanAttributes text = none := by
  rw [scanAttributes]
  split
  · rfl
  · rename_i same
    rw [begins] at same
    obtain ⟨rfl, rfl⟩ := List.cons.inj same
    rfl

variable {attributes : List WrittenAttribute} {selfClosing : Bool} {rest : List Char}

theorem toList_tailText_cons_of_empty {attr : WrittenAttribute} (lost : attr.name = "") :
    (tailText (attr :: attributes) selfClosing).toList ++ rest =
      ' ' :: (((attr.value.map WrittenValue.written).getD "").toList ++
        ((tailText attributes selfClosing).toList ++ rest)) := by
  rw [toList_tailText_cons, lost]
  rfl

/-- An attribute without a name is passed over, and its value ends the reading. -/
theorem scanAttributes_of_empty {attr : WrittenAttribute} (lost : attr.name = "")
    {tail : StartTagTail} (scanned :
      scanAttributes ((tailText (attr :: attributes) selfClosing).toList ++ rest) = some tail) :
    scanAttributes ((tailText attributes selfClosing).toList ++ rest) = some tail := by
  rw [toList_tailText_cons_of_empty lost] at scanned
  cases valued : attr.value with
  | none =>
    rw [valued, scanAttributes_blank] at scanned
    exact scanned
  | some value =>
    obtain ⟨text, spelled⟩ := value.exists_written
    have begins : (' ' :: (value.written.toList ++
        ((tailText attributes selfClosing).toList ++ rest))).dropWhile Text.isBlank =
          '=' :: (text ++ ((tailText attributes selfClosing).toList ++ rest)) := by
      rw [spelled]
      rfl
    rw [valued, Option.map_some, Option.getD_some, scanAttributes_of_equals begins] at scanned
    cases scanned

/-- Behind the name of an attribute a value is read or none, up to one of some attributes or to the
end of the tag. -/
def EndsBefore (attributes : List WrittenAttribute) (selfClosing : Bool) (rest text : List Char) :
    Prop :=
  ∃ value later, later <:+ attributes ∧
    scanAssignment text = some (value, (tailText later selfClosing).toList ++ rest)

theorem EndsBefore.cons {text : List Char} (ends : EndsBefore attributes selfClosing rest text)
    (attr : WrittenAttribute) : EndsBefore (attr :: attributes) selfClosing rest text := by
  obtain ⟨value, later, behind, scanned⟩ := ends
  exact ⟨value, later, behind.trans (List.suffix_cons attr attributes), scanned⟩

theorem EndsBefore.behindName {attr : WrittenAttribute} (parts : attr.HasReadableParts)
    (ends : EndsBefore attributes selfClosing rest
      ((tailText attributes selfClosing).toList ++ rest)) :
    EndsBefore attributes selfClosing rest
      (((attr.value.map WrittenValue.written).getD "").toList ++
        ((tailText attributes selfClosing).toList ++ rest)) := by
  cases valued : attr.value with
  | none => exact ends
  | some value =>
    exact ⟨some value.reread, attributes, List.suffix_rfl,
      scanAssignment_written (parts.value value valued) _⟩

/-- An attribute without a value may get that of a later one which has lost its name. -/
theorem endsBefore_tailText (parts : ∀ attr ∈ attributes, attr.HasReadableParts) :
    EndsBefore attributes selfClosing rest
      ((tailText attributes selfClosing).toList ++ rest) := by
  induction attributes with
  | nil => exact ⟨none, [], List.suffix_rfl, scanAssignment_tailText (by simp) selfClosing rest⟩
  | cons attr attributes ih =>
    obtain ⟨first, others⟩ := List.forall_mem_cons.1 parts
    by_cases lost : attr.name = ""
    · rw [toList_tailText_cons_of_empty lost]
      rcases scanAssignment_blank (((attr.value.map WrittenValue.written).getD "").toList ++
        ((tailText attributes selfClosing).toList ++ rest)) with same | same
      · rw [EndsBefore, same]
        exact ((ih others).behindName first).cons attr
      · refine ⟨none, attr :: attributes, List.suffix_rfl, ?_⟩
        rw [same, toList_tailText_cons_of_empty lost]
    · have readable : ∀ other ∈ (attr :: attributes).head?, other.IsReadable := by
        rintro _ ⟨⟩
        exact ⟨lost, first.name, first.value⟩
      exact ⟨none, attr :: attributes, List.suffix_rfl,
        scanAssignment_tailText readable selfClosing rest⟩

/-- **No more attributes are read than have a name.** -/
theorem length_attributes_le (parts : ∀ attr ∈ attributes, attr.HasReadableParts)
    {tail : StartTagTail}
    (scanned : scanAttributes ((tailText attributes selfClosing).toList ++ rest) = some tail) :
    tail.attributes.length ≤ attributes.countP (·.name ≠ "") := by
  -- by induction on how many there are, since one may take several later ones with it
  induction size : attributes.length using Nat.strong_induction_on
    generalizing attributes tail with
  | h size ih =>
    subst size
    cases attributes with
    | nil =>
      rw [tailText_nil, scanAttributes_tagEnd] at scanned
      obtain rfl := Option.some.inj scanned
      exact Nat.le_refl 0
    | cons attr attributes =>
      obtain ⟨first, others⟩ := List.forall_mem_cons.1 parts
      by_cases lost : attr.name = ""
      · rw [List.countP_cons_of_neg (by simp [lost])]
        exact ih _ (Nat.lt_succ_self _) others (scanAttributes_of_empty lost scanned) rfl
      · rw [List.countP_cons_of_pos (by simp [lost])]
        obtain ⟨value, later, behind, assigned⟩ := (endsBefore_tailText others).behindName first
        rw [scanAttributes_tailText_cons ⟨lost, first.name, first.value⟩ assigned] at scanned
        obtain ⟨read, found, rfl⟩ := Option.map_eq_some_iff.1 scanned
        have fewer : read.attributes.length ≤ later.countP (·.name ≠ "") :=
          ih _ (Nat.lt_succ_of_le behind.length_le)
            (fun other mem => others other (behind.subset mem)) found rfl
        exact Nat.succ_le_succ (fewer.trans (behind.sublist.countP_le))

/-! ### Tags -/

/-- A start tag that is read in the place of another one has its name and its end, and for each of
its attributes, in their order, one with the name that it is given. -/
structure StartTag.Answers (again tag : StartTag) : Prop where
  name : again.name = tag.name
  selfClosing : again.selfClosing = tag.selfClosing
  attributes : again.attributes.map WrittenAttribute.name =
    tag.attributes.map fun attr => attr.normalized.name
  named : ∀ attr ∈ again.attributes, attr.name ≠ ""

namespace StartTag

variable {text : List Char} {tag : StartTag}

theorem hasReadableParts_edited (scanned : StartTag.scan text = some (tag, rest))
    (noHandler : ∀ attr ∈ tag.attributes, attr.IsNoHandler) :
    ∀ attr ∈ tag.edited.attributes, attr.HasReadableParts := by
  obtain ⟨_, readable⟩ := StartTag.readable_of_scan scanned
  exact List.forall_mem_map.2 fun attr mem =>
    WrittenAttribute.hasReadableParts_normalized (readable attr mem) (noHandler attr mem)

theorem exists_answer (scanned : StartTag.scan text = some (tag, rest))
    (noHandler : ∀ attr ∈ tag.attributes, attr.IsNoHandler)
    (spelled : ∀ attr ∈ tag.attributes, ¬ Name.IsUnspelled (Text.lower attr.name))
    (more : List Char) :
    ∃ again, StartTag.scan (tag.normalized.toList ++ more) = some (again, more) ∧
      again.Answers tag := by
  obtain ⟨isName, readable⟩ := StartTag.readable_of_scan scanned
  have isName : isTagName tag.edited.name = true := isName
  have named : ∀ attr ∈ tag.edited.attributes, attr.name ≠ "" :=
    List.forall_mem_map.2 fun attr mem => (WrittenAttribute.normalized_name_eq_empty_iff
      (readable attr mem) (noHandler attr mem)).not.2 (spelled attr mem)
  have parts := hasReadableParts_edited scanned noHandler
  have readable : ∀ attr ∈ tag.edited.attributes, attr.IsReadable :=
    fun attr mem => ⟨named attr mem, (parts attr mem).name, (parts attr mem).value⟩
  rw [normalized_eq]
  refine ⟨_, scan_written isName readable more, rfl, rfl, ?_, ?_⟩
  · rw [edited, List.map_map, List.map_map]
    rfl
  · exact List.forall_mem_map.2 named

theorem length_attributes_lt (scanned : StartTag.scan text = some (tag, rest))
    (noHandler : ∀ attr ∈ tag.attributes, attr.IsNoHandler) {attr : WrittenAttribute}
    (mem : attr ∈ tag.attributes) (unspelled : Name.IsUnspelled (Text.lower attr.name))
    {more behind : List Char} {again : StartTag}
    (read : StartTag.scan (tag.normalized.toList ++ more) = some (again, behind)) :
    again.attributes.length < tag.attributes.length := by
  obtain ⟨isName, readable⟩ := StartTag.readable_of_scan scanned
  have isName : isTagName tag.edited.name = true := isName
  have parts := hasReadableParts_edited scanned noHandler
  have lost := (WrittenAttribute.normalized_name_eq_empty_iff (readable attr mem)
    (noHandler attr mem)).2 unspelled
  rw [normalized_eq, scan_written_eq isName] at read
  obtain ⟨tail, found, same⟩ := Option.map_eq_some_iff.1 read
  obtain ⟨rfl, rfl⟩ := Prod.mk.inj same
  calc tail.attributes.length
      ≤ tag.edited.attributes.countP (·.name ≠ "") := length_attributes_le parts found
    _ < tag.edited.attributes.length := by
        refine Nat.lt_of_le_of_ne List.countP_le_length fun all => ?_
        have named := List.countP_eq_length.1 all _ (List.mem_map_of_mem mem)
        simp [lost] at named
    _ = tag.attributes.length := List.length_map _

end StartTag

/-- **A normalized start tag is read as the tag it was**, whatever follows it, if all of its names
have a spelling, and with fewer attributes, if it is read at all, if one has none. -/
theorem reread_normalized_iff {text rest : List Char} {tag : StartTag}
    (scanned : StartTag.scan text = some (tag, rest))
    (noHandler : ∀ attr ∈ tag.attributes, attr.IsNoHandler) :
    ((∀ more, ∃ again, StartTag.scan (tag.normalized.toList ++ more) = some (again, more) ∧
        again.Answers tag) ↔
      ∀ attr ∈ tag.attributes, ¬ Name.IsUnspelled (Text.lower attr.name)) ∧
    (∀ attr ∈ tag.attributes, Name.IsUnspelled (Text.lower attr.name) →
      ∀ more behind again,
        StartTag.scan (tag.normalized.toList ++ more) = some (again, behind) →
          again.attributes.length < tag.attributes.length) := by
  have fewer : ∀ attr ∈ tag.attributes, Name.IsUnspelled (Text.lower attr.name) →
      ∀ more behind again,
        StartTag.scan (tag.normalized.toList ++ more) = some (again, behind) →
          again.attributes.length < tag.attributes.length :=
    fun attr mem unspelled more behind again read =>
      StartTag.length_attributes_lt scanned noHandler mem unspelled read
  refine ⟨⟨fun answered attr mem unspelled => ?_, StartTag.exists_answer scanned noHandler⟩, fewer⟩
  obtain ⟨again, read, answers⟩ := answered []
  have asMany := congrArg List.length answers.attributes
  rw [List.length_map, List.length_map] at asMany
  exact absurd asMany (Nat.ne_of_lt (fewer attr mem unspelled _ _ _ read))

/-- A tag with names far beyond those of HTML, all of which have a spelling. -/
def oddTag : StartTag :=
  ⟨"b", [⟨"CLASS", some (.quoted "a \"b\"")⟩, ⟨"A-B", some (.bare "x\x7b")⟩, ⟨"ün_-ß:9-", none⟩,
    ⟨"ONclick", some (.expression "\x7bf\x7d")⟩, ⟨"DATA--:", some (.quoted ">")⟩,
    ⟨"_a:-", none⟩], true⟩

/-- A tag with two names that have no spelling. -/
def lossyTag : StartTag :=
  ⟨"input", [⟨"disabled", none⟩, ⟨"-", some (.bare "x")⟩, ⟨":-b", none⟩], false⟩

/-- How the two are written. -/
def oddMarkup : String :=
  "<b CLASS='a \"b\"' A-B=x\x7b ün_-ß:9- ONclick=\x7bf\x7d DATA--:\n= '>' _a:-/>"

def lossyMarkup : String :=
  "<input disabled -=x :-b>"

theorem reread_normalized_odd_and_lossy :
    (StartTag.scan oddMarkup.toList = some (oddTag, []) ∧
      ∀ more, ∃ again, StartTag.scan (oddTag.normalized.toList ++ more) = some (again, more) ∧
        again.Answers oddTag) ∧
    (StartTag.scan lossyMarkup.toList = some (lossyTag, []) ∧
      ∀ more behind again,
        StartTag.scan (lossyTag.normalized.toList ++ more) = some (again, behind) →
          again.attributes.length < 3) := by
  have odd : StartTag.scan oddMarkup.toList = some (oddTag, []) := by decide +kernel
  have lossy : StartTag.scan lossyMarkup.toList = some (lossyTag, []) := by decide +kernel
  have noHandler : ∀ tag ∈ [oddTag, lossyTag], ∀ attr ∈ tag.attributes, attr.IsNoHandler := by
    decide +kernel
  have spelled : ∀ attr ∈ oddTag.attributes, ¬ Name.IsUnspelled (Text.lower attr.name) := by
    decide +kernel
  have unspelled : Name.IsUnspelled (Text.lower "-") := by decide +kernel
  have mem : ⟨"-", some (.bare "x")⟩ ∈ lossyTag.attributes := by decide +kernel
  exact ⟨⟨odd, (reread_normalized_iff odd (noHandler _ (by simp))).1.2 spelled⟩,
    lossy, (reread_normalized_iff lossy (noHandler _ (by simp))).2 _ mem unspelled⟩

/-- A single hyphen is a name that is lost, and its value ends the reading. -/
theorem scan_normalized_hyphen :
    ∃ tag, StartTag.scan "<b -=x>".toList = some (tag, []) ∧
      (∀ attr ∈ tag.attributes, attr.IsNoHandler) ∧ tag.normalized = "<b =\"x\">" ∧
      StartTag.scan tag.normalized.toList = none :=
  ⟨⟨"b", [⟨"-", some (.bare "x")⟩], false⟩, by decide +kernel⟩

end JsxPages.Jsx
