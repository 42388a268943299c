import JsxPages.Proofs.Attribute.Names
import JsxPages.Proofs.Jsx.Kept
/-!
# Normalizing twice

Normalizing a text a second time changes nothing (`normalize_normalize`), if the first time settled
it: each start tag is then copied, and so is what stands between the tags. Two things can keep a
tag from being settled, both with its attributes (`WrittenAttribute.IsSettled`): a script that closes
the brace of the function it is put into, and a name with hyphens whose property falls under another
rule. The text between the tags is settled if no `<` in it begins a start tag once the tags behind it
are normalized.
-/

namespace JsxPages.Jsx

namespace WrittenAttribute

variable {attr : WrittenAttribute}

/-- What is asked of an attribute so that normalizing leaves alone what it becomes. -/
structure IsSettled (attr : WrittenAttribute) : Prop where
  /-- The function that a script becomes ends at its own brace. -/
  handler : Name.isEvent attr.name = true → ∀ script ∈ attr.value.bind WrittenValue.text?,
    IsBraced ("\x7b" ++ Attribute.handler script ++ "\x7d").toList
  /-- A name that is respelled gets a name to which no rule applies. -/
  respelled : propertyOf attr.name ≠ attr.name →
    propertyOf attr.name ≠ "" ∧ IsNormal ⟨propertyOf attr.name, valueOf attr⟩

instance (attr : WrittenAttribute) : Decidable attr.IsSettled :=
  decidable_of_iff
    ((Name.isEvent attr.name = true → ∀ script ∈ attr.value.bind WrittenValue.text?,
        IsBraced ("\x7b" ++ Attribute.handler script ++ "\x7d").toList) ∧
      (propertyOf attr.name ≠ attr.name →
        propertyOf attr.name ≠ "" ∧ IsNormal ⟨propertyOf attr.name, valueOf attr⟩))
    ⟨fun ⟨handler, respelled⟩ => ⟨handler, respelled⟩,
      fun settled => ⟨settled.handler, settled.respelled⟩⟩

/-! ### The rules, one by one -/

/-- An attribute is a class, a handler, or neither. -/
theorem normalized_cases (attr : WrittenAttribute) :
    (Text.lower attr.name = "class" ∧ attr.normalized = ⟨"className", attr.value⟩) ∨
    (∃ script ∈ attr.value.bind WrittenValue.text?, Name.isEvent attr.name = true ∧
      attr.normalized = ⟨Name.eventProperty attr.name,
        some (.expression ("\x7b" ++ Attribute.handler script ++ "\x7d"))⟩) ∨
    (Text.lower attr.name ≠ "class" ∧
      (∀ text ∈ attr.value.bind WrittenValue.text?, Name.isEvent attr.name = false) ∧
      attr.normalized = ⟨propertyOf attr.name, valueOf attr⟩) := by
  unfold normalized
  split
  · rename_i isClass
    exact .inl ⟨isClass, rfl⟩
  rename_i notClass
  split
  · rename_i script given event
    exact .inr (.inl ⟨script, given, event, rfl⟩)
  · rename_i noHandler
    refine .inr (.inr ⟨notClass, fun text given => ?_, rfl⟩)
    cases event : Name.isEvent attr.name with
    | false => rfl
    | true => exact absurd event (noHandler text given)

/-- What is left of a text is no truth value where a boolean is set. -/
theorem text_of_valueOf {text : String}
    (left : text ∈ (valueOf attr).bind WrittenValue.text?) :
    text ∈ attr.value.bind WrittenValue.text? ∧
      (Name.isBoolean attr.name = true → text ≠ "true" ∧ text ≠ "false") := by
  unfold valueOf at left
  split at left
  · rename_i written given
    split at left
    · cases left
    · rename_i plain
      obtain rfl := Option.some.inj (given.symm.trans left)
      exact ⟨given, fun boolean => not_or.1 fun truth => plain ⟨boolean, truth⟩⟩
  · rename_i none
    rw [none] at left
    cases left

theorem isReadable_valueOf (readable : attr.IsReadable) :
    ∀ value, valueOf attr = some value → value.IsReadable := by
  intro value given
  unfold valueOf at given
  split at given
  · rename_i text _
    split at given
    · rename_i truth
      obtain rfl := Option.some.inj given
      rintro code ⟨⟩
      rcases truth.2 with rfl | rfl <;> decide
    · exact readable.value value given
  · exact readable.value value given

theorem inAttributeName_propertyOf {name : String}
    (inName : ∀ c ∈ name.toList, inAttributeName c = true) :
    ∀ c ∈ (propertyOf name).toList, inAttributeName c = true := by
  unfold propertyOf
  split
  · exact Name.inAttributeName_property (Name.inAttributeName_lower inName)
  · exact inName

/-- No rule applies to what a settled attribute becomes. -/
theorem IsSettled.isNormal (settled : attr.IsSettled) : attr.normalized.IsNormal := by
  rcases attr.normalized_cases with
    ⟨_, same⟩ | ⟨script, _, event, same⟩ | ⟨notClass, notEvent, same⟩
  · rw [same]
    have agrees : Name.Agrees "class" "className" := Name.agrees_of_ownProperty? rfl
    exact ⟨agrees.notClass, agrees.spelling, fun _ _ => agrees.notEvent,
      fun boolean => absurd (agrees.boolean boolean) (by decide)⟩
  · rw [same]
    obtain ⟨notClass, property⟩ := Name.eventProperty_normal event
    exact ⟨notClass, property, nofun, fun _ => nofun⟩
  · rw [same]
    by_cases kept : propertyOf attr.name = attr.name
    · rw [kept]
      exact ⟨notClass, kept, fun text left => notEvent text (text_of_valueOf left).1,
        fun boolean text left => (text_of_valueOf left).2 boolean⟩
    · exact (settled.respelled kept).2

/-- What a settled attribute becomes is read back where it is written. -/
theorem IsSettled.isReadable (settled : attr.IsSettled) (readable : attr.IsReadable) :
    attr.normalized.IsReadable := by
  rcases attr.normalized_cases with ⟨_, same⟩ | ⟨script, given, event, same⟩ | ⟨_, _, same⟩
  · rw [same]
    have isProperty : Name.isProperty "className" = true := by decide
    obtain ⟨some, inName⟩ := Name.inAttributeName_of_isProperty isProperty
    exact ⟨some, inName, readable.value⟩
  · rw [same]
    obtain ⟨some, inName⟩ :=
      Name.inAttributeName_of_isProperty (Name.isProperty_eventProperty event)
    refine ⟨some, inName, ?_⟩
    rintro _ ⟨⟩ _ ⟨⟩
    exact settled.handler event script given
  · rw [same]
    refine ⟨?_, inAttributeName_propertyOf readable.name, isReadable_valueOf readable⟩
    by_cases kept : propertyOf attr.name = attr.name
    · change propertyOf attr.name ≠ ""
      rw [kept]
      exact readable.some
    · exact (settled.respelled kept).1

end WrittenAttribute

/-! ### Texts -/

/-- The ends of a text that normalizing looks at in search of a start tag. -/
def places : List Char → List (List Char)
  | [] => []
  | c :: rest =>
    (c :: rest) ::
      match h : StartTag.scan (c :: rest) with
      | some (_, after) =>
        have : after.length < rest.length + 1 := StartTag.length_scan_lt h
        places after
      | none => places rest
termination_by text => text.length

theorem places_of_some {c : Char} {rest after : List Char} {tag : StartTag}
    (scanned : StartTag.scan (c :: rest) = some (tag, after)) :
    places (c :: rest) = (c :: rest) :: places after := by
  rw [places]
  split
  · rename_i same
    rw [scanned] at same
    obtain ⟨rfl, rfl⟩ := Prod.mk.inj (Option.some.inj same)
    rfl
  · rename_i none
    rw [scanned] at none
    cases none

theorem places_of_none {c : Char} {rest : List Char}
    (none : StartTag.scan (c :: rest) = none) :
    places (c :: rest) = (c :: rest) :: places rest := by
  rw [places]
  split
  · rename_i same
    rw [none] at same
    cases same
  · rfl

/-- What is asked of a place in a text so that normalizing leaves alone what is written for it: of a
start tag that its attributes are settled, of any other character that it begins no start tag
afterwards either. -/
def IsSettledAt : List Char → Prop
  | [] => True
  | c :: rest =>
    match StartTag.scan (c :: rest) with
    | some (tag, _) => ∀ attr ∈ tag.attributes, attr.IsSettled
    | none => StartTag.scan (c :: normalizeFrom rest) = none

instance : (place : List Char) → Decidable (IsSettledAt place)
  | [] => isTrue trivial
  | c :: rest =>
    match scanned : StartTag.scan (c :: rest) with
    | some (tag, _) =>
      decidable_of_iff (∀ attr ∈ tag.attributes, attr.IsSettled) (by simp [IsSettledAt, scanned])
    | none =>
      decidable_of_iff (StartTag.scan (c :: normalizeFrom rest) = none)
        (by simp [IsSettledAt, scanned])

theorem kept_normalized {place after : List Char} {tag : StartTag}
    (scanned : StartTag.scan place = some (tag, after))
    (settled : ∀ attr ∈ tag.attributes, attr.IsSettled) : Kept tag.normalized.toList := by
  obtain ⟨isName, readable⟩ := StartTag.readable_of_scan scanned
  rw [StartTag.normalized_eq]
  exact StartTag.kept_written isName
    (List.forall_mem_map.2 fun attr mem => (settled attr mem).isReadable (readable attr mem))
    (List.forall_mem_map.2 fun attr mem => (settled attr mem).isNormal)

theorem normalizeFrom_normalizeFrom {text : List Char}
    (settled : ∀ place ∈ places text, IsSettledAt place) :
    normalizeFrom (normalizeFrom text) = normalizeFrom text := by
  fun_induction normalizeFrom text with
  | case1 => rw [normalizeFrom]
  | case2 c rest tag after scanned _ ih =>
    rw [places_of_some scanned] at settled
    obtain ⟨here, later⟩ := List.forall_mem_cons.1 settled
    simp only [IsSettledAt, scanned] at here
    rw [kept_normalized scanned here, ih later]
  | case3 c rest none ih =>
    rw [places_of_none none] at settled
    obtain ⟨here, later⟩ := List.forall_mem_cons.1 settled
    simp only [IsSettledAt, none] at here
    rw [normalizeFrom_of_none here, ih later]

/-- **Normalizing a settled text twice is normalizing it once.** -/
theorem normalize_normalize {source : String}
    (settled : ∀ place ∈ places source.toList, IsSettledAt place) :
    normalize (normalize source) = normalize source := by
  have same := normalizeFrom_normalizeFrom settled
  rw [normalize, normalize, String.toList_ofList, same]

/-- Spellings of HTML and of JSX next to each other, and a `<` that begins no tag. -/
def mixedMarkup : String :=
  "<P CLASS='a \"b\"' onClick=go('\x7d') x><a<b stroke-width=2 ONCLICK=\x7bf\x7d " ++
    "data-x-y='<i class=c>' checked=true/></a <q class=\"z"

theorem normalize_normalize_mixedMarkup :
    (∀ place ∈ places mixedMarkup.toList, IsSettledAt place) ∧
      normalize (normalize mixedMarkup) = normalize mixedMarkup := by
  have settled : ∀ place ∈ places mixedMarkup.toList, IsSettledAt place := by decide +kernel
  exact ⟨settled, normalize_normalize settled⟩

/-- Each of these texts is unsettled in one way: by a script that closes a brace of its function, by
a name with hyphens that becomes another one with a hyphen, that of a handler, that of a boolean
attribute, that of classes, or nothing at all, and by a `<` that begins a tag when it is read in
front of other quotes. -/
theorem normalize_unsettled :
    ¬ ∃ source ∈ ["<p onclick=\"\x7d<b class=x>\">", "<p a-b:c=x>", "<p on-click=x>",
        "<p read-only=true>", "<p cl-ass=x>", "<p ->", "<p a=\"<b class=' >'>"],
      normalize (normalize source) = normalize source := by
  decide +kernel

end JsxPages.Jsx
