import JsxPages.Proofs.Jsx.Kept
/-!
# Printed start tags, read again

Printed attributes are written ones that all have values. So a start tag that is printed with its
attributes is read back with the same attributes, whatever follows it (`scan_printed`), as long as
their names are names and their expressions are closed code. It is copied when markup is normalized
if, besides, none of its attributes has a spelling that normalizing knows better (`kept_printed`).
-/

namespace JsxPages.Jsx

/-- An attribute that can be read back where it is written. -/
structure Attribute.IsReadable (attr : Attribute) : Prop where
  some : attr.name ≠ ""
  name : ∀ c ∈ attr.name.toList, inAttributeName c = true
  code : ∀ code, attr.value = .expression code → Closed code.toList

/-- An attribute with a spelling that normalizing leaves alone. -/
structure Attribute.IsNormal (attr : Attribute) : Prop where
  notClass : Text.lower attr.name ≠ "class"
  property : propertyOf attr.name = attr.name
  notEvent : ∀ text, attr.value = .literal text → Name.isEvent attr.name = false
  notBoolean : ∀ text, attr.value = .literal text → Name.isBoolean attr.name = true →
    text ≠ "true" ∧ text ≠ "false"

/-- An attribute that is read back as it is written and that normalizing leaves alone. -/
structure Attribute.IsStable (attr : Attribute) : Prop where
  readable : attr.IsReadable
  normal : attr.IsNormal

/-! ### Printed attributes as they are read -/

/-- A value as it is read back. -/
def Value.written : Value → WrittenValue
  | literal text => .quoted (String.ofList (escapeQuotes text.toList))
  | expression code => .expression ("\x7b" ++ code ++ "\x7d")

def Attribute.written (attr : Attribute) : WrittenAttribute :=
  ⟨attr.name, some attr.value.written⟩

theorem written_written (value : Value) : value.written.written = "=" ++ value.text := by
  cases value with
  | literal text => exact (WrittenValue.quoted text).written_reread
  | expression code => rfl

theorem written_text (attr : Attribute) : WrittenAttribute.written attr.written = attr.text := by
  have value := written_written attr.value
  change " " ++ attr.name ++ attr.value.written.written = _
  rw [value, Attribute.text, String.append_assoc, String.append_assoc, String.append_assoc]

theorem reread_written (attr : Attribute) : attr.written.reread = attr.written := by
  obtain ⟨name, text | code⟩ := attr
  · have free := quote_notMem_escapeQuotes text.toList
    simp [Attribute.written, Value.written, WrittenAttribute.reread, WrittenValue.reread,
      escapeQuotes_of_notMem free]
  · rfl

theorem Attribute.IsReadable.written {attr : Attribute} (readable : attr.IsReadable) :
    attr.written.IsReadable := by
  refine ⟨readable.some, readable.name, ?_⟩
  rintro value ⟨⟩ code given
  obtain ⟨name, text | body⟩ := attr
  · cases given
  · obtain rfl := WrittenValue.expression.inj given
    have whole : ("\x7b" ++ body ++ "\x7d").toList = '\x7b' :: (body.toList ++ ['\x7d']) := by simp
    rw [whole]
    exact isBraced_of_closed (readable.code body rfl)

theorem Attribute.IsNormal.written {attr : Attribute} (normal : attr.IsNormal) :
    attr.written.IsNormal := by
  obtain ⟨name, text | code⟩ := attr
  · refine ⟨normal.notClass, normal.property, fun _ _ => normal.notEvent text rfl, ?_⟩
    rintro boolean _ ⟨⟩
    obtain ⟨notTrue, notFalse⟩ := normal.notBoolean text rfl boolean
    exact ⟨escaped_ne (by decide) notTrue, escaped_ne (by decide) notFalse⟩
  · exact ⟨normal.notClass, normal.property, nofun, nofun⟩

/-! ### Printed tags -/

/-- A start tag as it is printed. -/
def printedTag (name : String) (attributes : List Attribute) (selfClosing : Bool) : String :=
  "<" ++ name ++ attributesText attributes ++ tagEnd selfClosing

theorem written_printed (name : String) (attributes : List Attribute) (selfClosing : Bool) :
    StartTag.written ⟨name, attributes.map Attribute.written, selfClosing⟩ =
      printedTag name attributes selfClosing := by
  have same : (attributes.map Attribute.written).map WrittenAttribute.written =
      attributes.map Attribute.text := by
    rw [List.map_map]
    exact congrArg (attributes.map ·) (funext written_text)
  rw [StartTag.written, tailText, same, ← String.append_assoc]
  rfl

/-- **A start tag is read back as it is printed**, with anything behind it. -/
theorem scan_printed {name : String} (isName : isTagName name = true) {attributes : List Attribute}
    (readable : ∀ attr ∈ attributes, attr.IsReadable) (selfClosing : Bool) (rest : List Char) :
    StartTag.scan ((printedTag name attributes selfClosing).toList ++ rest) =
      some (⟨name, attributes.map Attribute.written, selfClosing⟩, rest) := by
  have scanned := @StartTag.scan_written
    ⟨name, attributes.map Attribute.written, selfClosing⟩ isName
    (List.forall_mem_map.2 fun attr mem => (readable attr mem).written) rest
  have same : (attributes.map Attribute.written).map WrittenAttribute.reread =
      attributes.map Attribute.written := by
    rw [List.map_map]
    exact congrArg (attributes.map ·) (funext reread_written)
  dsimp only at scanned
  rw [written_printed, same] at scanned
  exact scanned

/-- **A printed start tag is copied** if its attributes are stable. -/
theorem kept_printed {name : String} (isName : isTagName name = true) {attributes : List Attribute}
    (stable : ∀ attr ∈ attributes, attr.IsStable) (selfClosing : Bool) :
    Kept (printedTag name attributes selfClosing).toList := by
  rw [← written_printed]
  exact StartTag.kept_written isName
    (List.forall_mem_map.2 fun attr mem => (stable attr mem).readable.written)
    (List.forall_mem_map.2 fun attr mem => (stable attr mem).normal.written)

theorem notMem_of_isTagName {name : String} (isName : isTagName name = true) :
    '<' ∉ name.toList := by
  obtain ⟨c, rest, named, alpha, inName⟩ := isTagName_cases isName
  rw [named]
  intro mem
  rcases List.mem_cons.1 mem with rfl | later
  · revert alpha
    decide
  · have isPart := inName '<' later
    revert isPart
    decide

end JsxPages.Jsx
