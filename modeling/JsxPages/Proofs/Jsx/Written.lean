import JsxPages.Jsx.Normalize
import JsxPages.Proofs.Jsx.Code
import JsxPages.Proofs.Jsx.Reference
/-!
# Written start tags, read again

A start tag that is written with some attributes is read back with the same attributes, whatever
follows it (`StartTag.scan_written`), as long as their names are names and their expressions end at
the brace that closes their first one. Texts are read with their quotes as references.

All that is read from markup is of this kind (`StartTag.readable_of_scan`).
-/

namespace JsxPages.Jsx

/-! ### Expressions in braces -/

namespace CodeScan

variable {scan : CodeScan} {text : List Char} {length : Nat}

theorem lengthToClose_append (closes : scan.lengthToClose text = some length) (rest : List Char) :
    scan.lengthToClose (text ++ rest) = some length := by
  induction text generalizing scan length with
  | nil => cases closes
  | cons c text ih =>
    rw [List.cons_append, lengthToClose]
    rw [lengthToClose] at closes
    split at closes
    · rename_i ends
      rwa [if_pos ends]
    · rename_i goesOn
      obtain ⟨behind, later, rfl⟩ := Option.map_eq_some_iff.1 closes
      rw [if_neg goesOn, ih later, Option.map_some]

/-- The brace that closes the first one is the last character of what it closes. -/
theorem lengthToClose_take (closes : scan.lengthToClose text = some length) :
    length ≤ text.length ∧ scan.lengthToClose (text.take length) = some length := by
  induction text generalizing scan length with
  | nil => cases closes
  | cons c text ih =>
    rw [lengthToClose] at closes
    split at closes
    · rename_i ends
      split at closes
      · rename_i last
        obtain rfl := Option.some.inj closes
        refine ⟨by simp, ?_⟩
        rw [List.take_succ_cons, lengthToClose, if_pos ends, if_pos last]
      · cases closes
    · rename_i goesOn
      obtain ⟨behind, later, rfl⟩ := Option.map_eq_some_iff.1 closes
      obtain ⟨short, taken⟩ := ih later
      refine ⟨Nat.succ_le_succ short, ?_⟩
      rw [List.take_succ_cons, lengthToClose, if_neg goesOn, taken, Option.map_some]

end CodeScan

/-- Whether some code is one expression in braces, and all of it. -/
def IsBraced (code : List Char) : Prop :=
  code.head? = some '\x7b' ∧ expressionLength code = some code.length

instance (code : List Char) : Decidable (IsBraced code) :=
  inferInstanceAs (Decidable (_ ∧ _))

theorem isBraced_of_closed {code : List Char} (closed : Closed code) :
    IsBraced ('\x7b' :: (code ++ ['\x7d'])) := by
  refine ⟨rfl, ?_⟩
  rw [expressionLength_closed closed, List.length_cons, List.length_append, List.length_singleton]

theorem isBraced_take {rest : List Char} {length : Nat}
    (closes : expressionLength ('\x7b' :: rest) = some length) :
    IsBraced (('\x7b' :: rest).take length) := by
  obtain ⟨short, taken⟩ := CodeScan.lengthToClose_take closes
  refine ⟨?_, ?_⟩
  · cases length with
    | zero =>
      rw [expressionLength, CodeScan.lengthToClose, if_neg (by decide)] at closes
      obtain ⟨_, _, same⟩ := Option.map_eq_some_iff.1 closes
      cases same
    | succ length => rfl
  · rw [List.length_take_of_le short]
    exact taken

/-! ### Values -/

/-- A value as it is read where it is written. -/
def WrittenValue.reread : WrittenValue → WrittenValue
  | quoted text | bare text => .quoted (.ofList (escapeQuotes text.toList))
  | expression code => .expression code

/-- A value that can be read back where it is written. -/
def WrittenValue.IsReadable (value : WrittenValue) : Prop :=
  ∀ code, value = .expression code → IsBraced code.toList

theorem scanValue_quotedText (text : String) (rest : List Char) :
    scanValue ((quotedText text).toList ++ rest) =
      some (.quoted (.ofList (escapeQuotes text.toList)), rest) := by
  have cut := Text.cutFirst_append (quote_notMem_escapeQuotes text.toList) rest
  rw [toList_quotedText, List.cons_append, List.append_assoc, List.singleton_append, scanValue,
    if_pos (.inl rfl), scanQuoted, cut]
  rfl

theorem scanValue_braced {code : List Char} (braced : IsBraced code) (rest : List Char) :
    scanValue (code ++ rest) = some (.expression (.ofList code), rest) := by
  obtain ⟨begins, closes⟩ := braced
  obtain ⟨more, rfl⟩ := List.head?_eq_some_iff.1 begins
  have length := CodeScan.lengthToClose_append closes rest
  change expressionLength _ = _ at length
  rw [List.cons_append] at length ⊢
  rw [scanValue, if_neg (by decide), if_pos rfl, length, Option.map_some, ← List.cons_append,
    List.take_left' rfl, List.drop_left' rfl]

theorem scanAssignment_written {value : WrittenValue} (readable : value.IsReadable)
    (rest : List Char) :
    scanAssignment (value.written.toList ++ rest) = some (some value.reread, rest) := by
  have assigned {text : List Char} {read : WrittenValue}
      (solid : (text ++ rest).dropWhile Text.isBlank = text ++ rest)
      (scanned : scanValue (text ++ rest) = some (read, rest)) :
      scanAssignment ('=' :: (text ++ rest)) = some (some read, rest) := by
    have begins : ('=' :: (text ++ rest)).dropWhile Text.isBlank = '=' :: (text ++ rest) := by
      rw [List.dropWhile_cons, if_neg (by decide)]
    rw [scanAssignment, begins]
    change (scanValue ((text ++ rest).dropWhile Text.isBlank)).map _ = _
    rw [solid, scanned]
    rfl
  have equals (text : String) : ("=" ++ text).toList ++ rest = '=' :: (text.toList ++ rest) := by
    simp
  cases value with
  | quoted text | bare text =>
    rw [WrittenValue.written, equals]
    refine assigned ?_ (scanValue_quotedText text rest)
    rw [toList_quotedText, List.cons_append, List.dropWhile_cons, if_neg (by decide)]
  | expression code =>
    have braced := readable code rfl
    have scanned := scanValue_braced braced rest
    obtain ⟨more, begins⟩ := List.head?_eq_some_iff.1 braced.1
    rw [String.ofList_toList] at scanned
    rw [WrittenValue.written, equals]
    refine assigned ?_ scanned
    rw [begins, List.cons_append, List.dropWhile_cons, if_neg (by decide)]

/-! ### Attributes -/

/-- An attribute as it is read where it is written. -/
def WrittenAttribute.reread (attr : WrittenAttribute) : WrittenAttribute :=
  ⟨attr.name, attr.value.map WrittenValue.reread⟩

/-- An attribute that can be read back where it is written. -/
structure WrittenAttribute.IsReadable (attr : WrittenAttribute) : Prop where
  some : attr.name ≠ ""
  name : ∀ c ∈ attr.name.toList, inAttributeName c = true
  value : ∀ value, attr.value = .some value → value.IsReadable

theorem WrittenValue.written_reread (value : WrittenValue) :
    value.reread.written = value.written := by
  have same (text : String) :
      quotedText (String.ofList (escapeQuotes text.toList)) = quotedText text := by
    have free := quote_notMem_escapeQuotes text.toList
    apply String.toList_injective
    rw [toList_quotedText, toList_quotedText, String.toList_ofList, escapeQuotes_of_notMem free]
  cases value with
  | quoted text | bare text => exact congrArg ("=" ++ ·) (same text)
  | expression code => rfl

theorem WrittenAttribute.written_reread (attr : WrittenAttribute) :
    attr.reread.written = attr.written := by
  have same : (attr.value.map WrittenValue.reread).map WrittenValue.written =
      attr.value.map WrittenValue.written := by
    rw [Option.map_map]
    exact congrArg (attr.value.map ·) (funext WrittenValue.written_reread)
  rw [written, written, reread, same]

theorem scanAttributes_cons {text rest after : List Char} {c : Char} {value : Option WrittenValue}
    (begins : text.dropWhile Text.isBlank = c :: rest) (inName : inAttributeName c = true)
    (assigned : scanAssignment (rest.dropWhile inAttributeName) = some (value, after)) :
    scanAttributes text = (scanAttributes after).map fun tail =>
      { tail with
        attributes :=
          ⟨.ofList (c :: rest.takeWhile inAttributeName), value⟩ :: tail.attributes } := by
  have notEnd : c ≠ '>' ∧ c ≠ '/' := by
    constructor <;> rintro rfl <;> revert inName <;> decide
  rw [scanAttributes]
  split
  · rename_i none
    rw [begins] at none
    cases none
  · rename_i same
    rw [begins] at same
    obtain ⟨rfl, rfl⟩ := List.cons.inj same
    rw [if_neg notEnd.1, if_neg fun slash => notEnd.2 slash.1, if_pos inName]
    split
    · rename_i none
      rw [assigned] at none
      cases none
    · rename_i same
      rw [assigned] at same
      cases same
      rfl

/-- How a start tag ends. -/
def tagEnd (selfClosing : Bool) : String :=
  if selfClosing then " />" else ">"

theorem dropWhile_isBlank_tagEnd (selfClosing : Bool) (rest : List Char) :
    ((tagEnd selfClosing).toList ++ rest).dropWhile Text.isBlank =
      if selfClosing then '/' :: '>' :: rest else '>' :: rest := by
  cases selfClosing <;> simp [tagEnd, Text.isBlank, Text.blankRanges, Text.Ranges.contains]

theorem scanAttributes_tagEnd (selfClosing : Bool) (rest : List Char) :
    scanAttributes ((tagEnd selfClosing).toList ++ rest) = some ⟨[], selfClosing, rest⟩ := by
  have begins := dropWhile_isBlank_tagEnd selfClosing rest
  rw [scanAttributes]
  split
  · rename_i none
    rw [begins] at none
    split at none <;> cases none
  · rename_i c behind same
    rw [begins] at same
    cases selfClosing with
    | true =>
      obtain ⟨rfl, rfl⟩ := List.cons.inj same
      rfl
    | false =>
      obtain ⟨rfl, rfl⟩ := List.cons.inj same
      rfl

/-- A start tag behind its name. -/
def tailText (attributes : List WrittenAttribute) (selfClosing : Bool) : String :=
  String.join (attributes.map WrittenAttribute.written) ++ tagEnd selfClosing

theorem tailText_nil (selfClosing : Bool) : tailText [] selfClosing = tagEnd selfClosing := by
  simp [tailText]

theorem toList_tailText_cons (attr : WrittenAttribute) (attributes : List WrittenAttribute)
    (selfClosing : Bool) (rest : List Char) :
    (tailText (attr :: attributes) selfClosing).toList ++ rest =
      ' ' :: (attr.name.toList ++ (((attr.value.map WrittenValue.written).getD "").toList ++
        ((tailText attributes selfClosing).toList ++ rest))) := by
  simp [tailText, WrittenAttribute.written]

/-- Names end in front of what follows them in a tag. -/
theorem exists_tailText (attributes : List WrittenAttribute) (selfClosing : Bool)
    (rest : List Char) :
    ∃ c more, (tailText attributes selfClosing).toList ++ rest = c :: more ∧
      inTagName c = false ∧ inAttributeName c = false := by
  cases attributes with
  | nil =>
    cases selfClosing with
    | true => exact ⟨' ', '/' :: '>' :: rest, rfl, by decide, by decide⟩
    | false => exact ⟨'>', rest, rfl, by decide, by decide⟩
  | cons attr attributes =>
    rw [toList_tailText_cons]
    exact ⟨' ', _, rfl, by decide, by decide⟩

theorem WrittenAttribute.IsReadable.exists_cons {attr : WrittenAttribute}
    (readable : attr.IsReadable) :
    ∃ c name, attr.name.toList = c :: name ∧ inAttributeName c = true ∧
      ∀ d ∈ name, inAttributeName d = true := by
  obtain ⟨c, name, named⟩ := List.exists_cons_of_ne_nil
    fun none => readable.some (String.toList_eq_nil_iff.1 none)
  have inName := readable.name
  rw [named] at inName
  exact ⟨c, name, named, List.forall_mem_cons.1 inName⟩

/-- The blank in front of an attribute is skipped, and nothing else. -/
theorem dropWhile_isBlank_tailText {attr : WrittenAttribute} (readable : attr.IsReadable)
    (attributes : List WrittenAttribute) (selfClosing : Bool) (rest : List Char) :
    ∃ c name, attr.name.toList = c :: name ∧ inAttributeName c = true ∧
      (∀ d ∈ name, inAttributeName d = true) ∧
      ((tailText (attr :: attributes) selfClosing).toList ++ rest).dropWhile Text.isBlank =
        c :: (name ++ (((attr.value.map WrittenValue.written).getD "").toList ++
          ((tailText attributes selfClosing).toList ++ rest))) := by
  obtain ⟨c, name, named, inFirst, inRest⟩ := readable.exists_cons
  have solid : Text.isBlank c = false := by
    simp only [inAttributeName, Bool.and_eq_true, Bool.not_eq_true'] at inFirst
    exact inFirst.1
  refine ⟨c, name, named, inFirst, inRest, ?_⟩
  rw [toList_tailText_cons, named, List.dropWhile_cons, if_pos (by decide), List.cons_append,
    List.dropWhile_cons, if_neg (by simp [solid])]

/-- No equals sign stands behind an attribute without a value. -/
theorem scanAssignment_tailText {attributes : List WrittenAttribute}
    (readable : ∀ attr ∈ attributes.head?, attr.IsReadable) (selfClosing : Bool)
    (rest : List Char) :
    scanAssignment ((tailText attributes selfClosing).toList ++ rest) =
      some (none, (tailText attributes selfClosing).toList ++ rest) := by
  suffices ∀ after, ((tailText attributes selfClosing).toList ++ rest).dropWhile Text.isBlank ≠
      '=' :: after by
    rw [scanAssignment]
    split
    · rename_i after begins
      exact absurd begins (this after)
    · rfl
  intro after begins
  cases attributes with
  | nil =>
    rw [tailText_nil, dropWhile_isBlank_tagEnd] at begins
    cases selfClosing <;> cases begins
  | cons attr attributes =>
    obtain ⟨c, name, _, inName, _, named⟩ := dropWhile_isBlank_tailText
      (readable attr rfl) attributes selfClosing rest
    obtain ⟨rfl, _⟩ := List.cons.inj (named.symm.trans begins)
    revert inName
    decide

/-- Behind the name of an attribute its value is read, if it has one. -/
theorem scanAssignment_behindName {attr : WrittenAttribute} {attributes : List WrittenAttribute}
    (first : attr.IsReadable) (others : ∀ other ∈ attributes, other.IsReadable)
    (selfClosing : Bool) (rest : List Char) :
    scanAssignment (((attr.value.map WrittenValue.written).getD "").toList ++
        ((tailText attributes selfClosing).toList ++ rest)) =
      some (attr.value.map WrittenValue.reread,
        (tailText attributes selfClosing).toList ++ rest) := by
  cases valued : attr.value with
  | none =>
    have first : ∀ other ∈ attributes.head?, other.IsReadable :=
      fun other isFirst => others other (List.mem_of_mem_head? isFirst)
    exact scanAssignment_tailText first selfClosing rest
  | some value => exact scanAssignment_written (first.value value valued) _

theorem WrittenValue.exists_written (value : WrittenValue) :
    ∃ text, value.written.toList = '=' :: text := by
  cases value <;> exact ⟨_, by simp [WrittenValue.written]; rfl⟩

/-- What stands behind the name of an attribute does not continue it. -/
theorem exists_behindName (attr : WrittenAttribute) (attributes : List WrittenAttribute)
    (selfClosing : Bool) (rest : List Char) :
    ∃ d more, ((attr.value.map WrittenValue.written).getD "").toList ++
        ((tailText attributes selfClosing).toList ++ rest) = d :: more ∧
      inAttributeName d = false := by
  obtain ⟨d, more, behind, _, notName⟩ := exists_tailText attributes selfClosing rest
  cases attr.value with
  | none => exact ⟨d, more, behind, notName⟩
  | some value =>
    obtain ⟨text, spelled⟩ := value.exists_written
    exact ⟨'=', text ++ ((tailText attributes selfClosing).toList ++ rest), by simp [spelled],
      by decide⟩

/-- An attribute with a name is read before what stands behind its value. -/
theorem scanAttributes_tailText_cons {attr : WrittenAttribute} (first : attr.IsReadable)
    {attributes : List WrittenAttribute} {selfClosing : Bool} {rest after : List Char}
    {value : Option WrittenValue}
    (assigned : scanAssignment (((attr.value.map WrittenValue.written).getD "").toList ++
      ((tailText attributes selfClosing).toList ++ rest)) = some (value, after)) :
    scanAttributes ((tailText (attr :: attributes) selfClosing).toList ++ rest) =
      (scanAttributes after).map fun tail =>
        { tail with attributes := ⟨attr.name, value⟩ :: tail.attributes } := by
  obtain ⟨c, name, named, inFirst, inRest, begins⟩ :=
    dropWhile_isBlank_tailText first attributes selfClosing rest
  obtain ⟨d, more, behind, notName⟩ := exists_behindName attr attributes selfClosing rest
  have taken : (name ++ d :: more).takeWhile inAttributeName = name := by
    rw [List.takeWhile_append_of_pos inRest, List.takeWhile_cons, if_neg (by simp [notName]),
      List.append_nil]
  have dropped : (name ++ d :: more).dropWhile inAttributeName = d :: more := by
    rw [List.dropWhile_append_of_pos inRest, List.dropWhile_cons, if_neg (by simp [notName])]
  rw [behind] at begins assigned
  rw [← dropped] at assigned
  rw [scanAttributes_cons begins inFirst assigned, taken, ← named, String.ofList_toList]

/-- **Attributes are read back as they are written**, with anything behind them. -/
theorem scanAttributes_tailText {attributes : List WrittenAttribute}
    (readable : ∀ attr ∈ attributes, attr.IsReadable) (selfClosing : Bool) (rest : List Char) :
    scanAttributes ((tailText attributes selfClosing).toList ++ rest) =
      some ⟨attributes.map WrittenAttribute.reread, selfClosing, rest⟩ := by
  induction attributes with
  | nil =>
    rw [tailText_nil]
    exact scanAttributes_tagEnd selfClosing rest
  | cons attr attributes ih =>
    obtain ⟨first, others⟩ := List.forall_mem_cons.1 readable
    -- the attributes behind the first one and the end of the tag are just what follows it
    have assigned := scanAssignment_behindName first others selfClosing rest
    rw [scanAttributes_tailText_cons first assigned, ih others]
    rfl

/-! ### Tags -/

/-- Whether a text is read as the name of a tag, and all of it. -/
def isTagName (name : String) : Bool :=
  match name.toList with
  | [] => false
  | c :: rest => c.isAlpha && rest.all inTagName

theorem isTagName_cases {name : String} (isName : isTagName name = true) :
    ∃ c rest, name.toList = c :: rest ∧ c.isAlpha = true ∧ ∀ d ∈ rest, inTagName d = true := by
  unfold isTagName at isName
  split at isName
  · cases isName
  · rename_i c rest named
    simp only [Bool.and_eq_true, List.all_eq_true] at isName
    exact ⟨c, rest, named, isName⟩

/-- A start tag as it is written. -/
def StartTag.written (tag : StartTag) : String :=
  "<" ++ tag.name ++ tailText tag.attributes tag.selfClosing

/-- The name of a written tag ends where its attributes begin. -/
theorem StartTag.scan_written_eq {tag : StartTag} (isName : isTagName tag.name = true)
    (rest : List Char) :
    StartTag.scan (tag.written.toList ++ rest) =
      (scanAttributes ((tailText tag.attributes tag.selfClosing).toList ++ rest)).map fun tail =>
        (⟨tag.name, tail.attributes, tail.selfClosing⟩, tail.rest) := by
  obtain ⟨name, attributes, selfClosing⟩ := tag
  obtain ⟨c, letters, named, alpha, inName⟩ := isTagName_cases isName
  obtain ⟨d, more, begins, ends, _⟩ := exists_tailText attributes selfClosing rest
  have text : (StartTag.written ⟨name, attributes, selfClosing⟩).toList ++ rest =
      '<' :: c :: (letters ++ d :: more) := by
    rw [← begins, StartTag.written]
    simp [show name.toList = c :: letters from named]
  have taken : (letters ++ d :: more).takeWhile inTagName = letters := by
    rw [List.takeWhile_append_of_pos inName, List.takeWhile_cons, if_neg (by simp [ends]),
      List.append_nil]
  have dropped : (letters ++ d :: more).dropWhile inTagName = d :: more := by
    rw [List.dropWhile_append_of_pos inName, List.dropWhile_cons, if_neg (by simp [ends])]
  rw [text, StartTag.scan, if_pos alpha, dropped, taken, ← named, String.ofList_toList, begins]

/-- **A start tag is read back as it is written**, with anything behind it. -/
theorem StartTag.scan_written {tag : StartTag} (isName : isTagName tag.name = true)
    (readable : ∀ attr ∈ tag.attributes, attr.IsReadable) (rest : List Char) :
    StartTag.scan (tag.written.toList ++ rest) =
      some ({ tag with attributes := tag.attributes.map WrittenAttribute.reread }, rest) := by
  rw [scan_written_eq isName, scanAttributes_tailText readable]
  rfl

/-! ### What is read can be written -/

theorem isReadable_of_scanValue {text rest : List Char} {value : WrittenValue}
    (scanned : scanValue text = some (value, rest)) : value.IsReadable := by
  rintro code rfl
  unfold scanValue at scanned
  split at scanned
  · cases scanned
  split at scanned
  · obtain ⟨_, _, same⟩ := Option.map_eq_some_iff.1 scanned
    cases same
  split at scanned
  · rename_i brace
    subst brace
    obtain ⟨length, closes, same⟩ := Option.map_eq_some_iff.1 scanned
    obtain rfl := WrittenValue.expression.inj (Prod.mk.inj same).1
    rw [String.toList_ofList]
    exact isBraced_take closes
  split at scanned
  · cases scanned
  · cases scanned

theorem isReadable_of_scanAssignment {text rest : List Char} {value : WrittenValue}
    (scanned : scanAssignment text = some (some value, rest)) : value.IsReadable := by
  unfold scanAssignment at scanned
  split at scanned
  · obtain ⟨⟨read, after⟩, found, same⟩ := Option.map_eq_some_iff.1 scanned
    obtain rfl := Option.some.inj (Prod.mk.inj same).1
    exact isReadable_of_scanValue found
  · cases scanned

theorem isReadable_of_scanAttributes {text : List Char} {tail : StartTagTail}
    (scanned : scanAttributes text = some tail) : ∀ attr ∈ tail.attributes, attr.IsReadable := by
  fun_induction scanAttributes text generalizing tail with
  | case1 => cases scanned
  | case2 | case3 =>
    obtain rfl := Option.some.inj scanned
    exact List.forall_mem_nil _
  | case4 => cases scanned
  | case5 text c rest _ _ _ inName value after assigned _ ih =>
    obtain ⟨behind, later, rfl⟩ := Option.map_eq_some_iff.1 scanned
    refine List.forall_mem_cons.2 ⟨⟨?_, ?_, ?_⟩, ih later⟩
    · intro empty
      have none := congrArg String.toList empty
      rw [String.toList_ofList] at none
      cases none
    · rw [String.toList_ofList]
      exact List.forall_mem_cons.2 ⟨inName, fun d mem => List.mem_takeWhile_imp mem⟩
    · rintro value rfl
      exact isReadable_of_scanAssignment assigned
  | case6 => cases scanned

/-- **What is read as a start tag can be written as one.** -/
theorem StartTag.readable_of_scan {text rest : List Char} {tag : StartTag}
    (scanned : StartTag.scan text = some (tag, rest)) :
    isTagName tag.name = true ∧ ∀ attr ∈ tag.attributes, attr.IsReadable := by
  unfold StartTag.scan at scanned
  split at scanned
  · split at scanned
    · rename_i c text alpha
      obtain ⟨tail, found, same⟩ := Option.map_eq_some_iff.1 scanned
      obtain ⟨rfl, rfl⟩ := Prod.mk.inj same
      refine ⟨?_, isReadable_of_scanAttributes found⟩
      rw [isTagName, String.toList_ofList, Bool.and_eq_true]
      exact ⟨alpha, List.all_eq_true.2 fun d mem => List.mem_takeWhile_imp mem⟩
    · cases scanned
  · cases scanned

end JsxPages.Jsx
