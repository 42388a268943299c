import JsxPages.Proofs.Jsx.Written
/-!
# What normalizing leaves alone

A start tag that is read back is normalized attribute by attribute, so it stays as it is if none of
its attributes has a spelling that normalizing knows better (`WrittenAttribute.IsNormal`). Whatever
follows such a tag, it is copied (`StartTag.kept_written`), as is all text without a start tag.
Copied texts are copied when they are put together (`Kept.append`).
-/

namespace JsxPages.Jsx

/-! ### Attributes -/

/-- An attribute with a spelling that normalizing leaves alone. -/
structure WrittenAttribute.IsNormal (attr : WrittenAttribute) : Prop where
  notClass : Text.lower attr.name ≠ "class"
  property : propertyOf attr.name = attr.name
  notEvent : ∀ text ∈ attr.value.bind WrittenValue.text?, Name.isEvent attr.name = false
  notBoolean : Name.isBoolean attr.name = true →
    ∀ text ∈ attr.value.bind WrittenValue.text?, text ≠ "true" ∧ text ≠ "false"

instance (attr : WrittenAttribute) : Decidable attr.IsNormal :=
  decidable_of_iff
    (Text.lower attr.name ≠ "class" ∧ propertyOf attr.name = attr.name ∧
      (∀ text ∈ attr.value.bind WrittenValue.text?, Name.isEvent attr.name = false) ∧
      (Name.isBoolean attr.name = true →
        ∀ text ∈ attr.value.bind WrittenValue.text?, text ≠ "true" ∧ text ≠ "false"))
    ⟨fun ⟨notClass, property, notEvent, notBoolean⟩ => ⟨notClass, property, notEvent, notBoolean⟩,
      fun normal => ⟨normal.notClass, normal.property, normal.notEvent, normal.notBoolean⟩⟩

theorem WrittenAttribute.normalized_of_isNormal {attr : WrittenAttribute}
    (normal : attr.IsNormal) : attr.normalized = attr := by
  have value : valueOf attr = attr.value := by
    unfold valueOf
    split
    · rename_i text given
      refine if_neg ?_
      rintro ⟨boolean, spelled⟩
      obtain ⟨notTrue, notFalse⟩ := normal.notBoolean boolean text given
      exact spelled.elim notTrue notFalse
    · rfl
  rw [normalized, if_neg normal.notClass]
  split
  · rename_i script given event
    rw [normal.notEvent script given] at event
    cases event
  · rw [normal.property, value]

/-- A text without references is not what quotes are written as. -/
theorem eq_of_escapeQuotes {text plain : List Char} (noReference : '&' ∉ plain)
    (same : escapeQuotes text = plain) : text = plain := by
  have free : '"' ∉ text := by
    intro quote
    have reference : '&' ∈ escapeQuotes text := List.mem_flatMap.2 ⟨'"', quote, by decide⟩
    exact noReference (same ▸ reference)
  rw [← same, escapeQuotes_of_notMem free]

/-- References do not make a truth value of a text that is none. -/
theorem escaped_ne {text plain : String} (noReference : '&' ∉ plain.toList) (other : text ≠ plain) :
    String.ofList (escapeQuotes text.toList) ≠ plain := by
  intro same
  apply other
  apply String.toList_injective
  apply eq_of_escapeQuotes noReference
  rw [← same, String.toList_ofList]

theorem WrittenValue.text?_reread (value : WrittenValue) :
    value.reread.text? = value.text?.map fun text => String.ofList (escapeQuotes text.toList) := by
  cases value <;> rfl

theorem WrittenAttribute.text?_reread (attr : WrittenAttribute) :
    attr.reread.value.bind WrittenValue.text? = (attr.value.bind WrittenValue.text?).map
      fun text => String.ofList (escapeQuotes text.toList) := by
  rw [reread, Option.bind_map, Option.map_bind]
  exact congrArg (attr.value.bind ·) (funext WrittenValue.text?_reread)

theorem WrittenAttribute.IsNormal.reread {attr : WrittenAttribute} (normal : attr.IsNormal) :
    attr.reread.IsNormal := by
  refine ⟨normal.notClass, normal.property, fun text given => ?_, fun boolean text given => ?_⟩
  all_goals
    rw [WrittenAttribute.text?_reread, Option.mem_def, Option.map_eq_some_iff] at given
    obtain ⟨plain, given, rfl⟩ := given
  · exact normal.notEvent plain given
  · obtain ⟨notTrue, notFalse⟩ := normal.notBoolean boolean plain given
    exact ⟨escaped_ne (by decide) notTrue, escaped_ne (by decide) notFalse⟩

/-! ### Tags -/

/-- A tag with each of its attributes normalized, in their order. -/
def StartTag.edited (tag : StartTag) : StartTag :=
  { tag with attributes := tag.attributes.map WrittenAttribute.normalized }

/-- A tag is normalized attribute by attribute. -/
theorem StartTag.normalized_eq (tag : StartTag) : tag.normalized = tag.edited.written := by
  rw [normalized, written, edited, tailText, List.map_map, ← String.append_assoc]
  rfl

theorem StartTag.normalized_reread {tag : StartTag}
    (normal : ∀ attr ∈ tag.attributes, attr.IsNormal) :
    StartTag.normalized { tag with attributes := tag.attributes.map WrittenAttribute.reread } =
      tag.written := by
  have same : ((tag.attributes.map WrittenAttribute.reread).map WrittenAttribute.normalized).map
      WrittenAttribute.written = tag.attributes.map WrittenAttribute.written := by
    rw [List.map_map, List.map_map]
    refine List.map_congr_left fun attr mem => ?_
    have reread := WrittenAttribute.normalized_of_isNormal (normal attr mem).reread
    rw [Function.comp_apply, Function.comp_apply, reread, attr.written_reread]
  rw [normalized_eq, written, edited, tailText, same]
  rfl

/-- Normalizing copies a text, whatever follows it. -/
def Kept (text : List Char) : Prop :=
  ∀ rest, normalizeFrom (text ++ rest) = text ++ normalizeFrom rest

theorem normalizeFrom_of_some {text after : List Char} {tag : StartTag}
    (some : StartTag.scan text = some (tag, after)) :
    normalizeFrom text = tag.normalized.toList ++ normalizeFrom after := by
  cases text with
  | nil => cases some
  | cons c rest =>
    rw [normalizeFrom]
    split
    · rename_i same
      rw [some] at same
      obtain ⟨rfl, rfl⟩ := Prod.mk.inj (Option.some.inj same)
      rfl
    · rename_i none
      rw [some] at none
      cases none

/-- **A written start tag is copied** if its attributes can be read back and are normal. -/
theorem StartTag.kept_written {tag : StartTag} (isName : isTagName tag.name = true)
    (readable : ∀ attr ∈ tag.attributes, attr.IsReadable)
    (normal : ∀ attr ∈ tag.attributes, attr.IsNormal) : Kept tag.written.toList := by
  intro rest
  rw [normalizeFrom_of_some (StartTag.scan_written isName readable rest), normalized_reread normal]

/-! ### Texts -/

theorem kept_nil : Kept [] :=
  fun _ => rfl

theorem Kept.append {text more : List Char} (first : Kept text) (second : Kept more) :
    Kept (text ++ more) := by
  intro rest
  rw [List.append_assoc, first, second, List.append_assoc]

theorem normalize_of_kept {text : String} (kept : Kept text.toList) : normalize text = text := by
  have whole : normalizeFrom text.toList = text.toList := by simpa [normalizeFrom] using kept []
  rw [normalize, whole, String.ofList_toList]

theorem normalizeFrom_of_none {c : Char} {rest : List Char}
    (none : StartTag.scan (c :: rest) = none) :
    normalizeFrom (c :: rest) = c :: normalizeFrom rest := by
  rw [normalizeFrom]
  split
  · rename_i some
    rw [none] at some
    cases some
  · rfl

/-- Tags begin at a `<` only. -/
theorem StartTag.scan_of_ne {c : Char} (notOpen : c ≠ '<') (rest : List Char) :
    StartTag.scan (c :: rest) = none := by
  unfold StartTag.scan
  split
  · rename_i same
    exact absurd (List.cons.inj same).1 notOpen
  · rfl

theorem kept_of_notMem {text : List Char} (free : '<' ∉ text) : Kept text := by
  induction text with
  | nil => exact kept_nil
  | cons c text ih =>
    obtain ⟨notOpen, others⟩ := not_or.1 (free ∘ List.mem_cons.2)
    intro rest
    have none : StartTag.scan (c :: (text ++ rest)) = none :=
      StartTag.scan_of_ne (Ne.symm notOpen) _
    rw [List.cons_append, normalizeFrom_of_none none, ih others, List.cons_append]

/-- No tag starts in front of a slash or at the end of a fragment. -/
theorem kept_open {c : Char} (notAlpha : c.isAlpha = false) {text : List Char}
    (free : '<' ∉ c :: text) : Kept ('<' :: c :: text) := by
  intro rest
  have none : StartTag.scan ('<' :: (c :: text ++ rest)) = none := by
    simp [StartTag.scan, notAlpha]
  rw [List.cons_append, normalizeFrom_of_none none, kept_of_notMem free]
  rfl

end JsxPages.Jsx
