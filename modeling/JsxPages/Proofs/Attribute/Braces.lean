import JsxPages.Proofs.Script.Expression
/-!
# What looks like a path or a number

A value in braces is copied as an expression if it looks like a path of names or like a number. It is
one of module code unless the path begins with a reserved word or holds a character that only words
have, or the number has digits of another script or a zero that it does not need (`Refused`,
`isExpression_iff`). The four cannot be mixed up: paths, numbers and objects begin differently.
-/

namespace JsxPages.Attribute

open Script (IsExpression)

/-! ### What looks like a path or a number -/

/-- Why module code refuses a text that looks like a path or a number. -/
inductive Refused (body : List Char) : Prop where
  | reserved (path : isPath body = true) (first : Script.firstName body ∈ Script.reservedWords)
      (notTruth : body ≠ "true".toList ∧ body ≠ "false".toList)
  | character (path : isPath body = true) (c : Char) (mem : c ∈ body) (notPoint : c ≠ '.')
      (outside : Script.isNamePart c = false)
  | digit (number : isNumber body = true) (c : Char) (mem : c ∈ body)
      (digit : Text.isDecimalDigit c = true) (notAscii : c.isDigit = false)
  | zero (number : isNumber body = true)
      (idle : Script.hasIdleZero (Script.wholePart body) = true)

theorem of_isIdentifierStart {P : Char → Prop}
    (all : ∀ code < 128, Name.isIdentifierStart (Char.ofNat code) = true → P (Char.ofNat code))
    {c : Char} (start : Name.isIdentifierStart c = true) : P c := by
  have ascii : c.toNat < 128 := by
    simp only [Name.isIdentifierStart, Bool.or_eq_true, beq_iff_eq] at start
    rcases start with (alpha | rfl) | rfl
    · exact Text.toNat_lt_of_isAlphanum (Text.isAlphanum_of_isAlpha alpha)
    · decide
    · decide
  exact Text.forall_ascii (P := fun c => Name.isIdentifierStart c = true → P c) all ascii start

theorem isNamePart_of_isIdentifierStart {c : Char} (start : Name.isIdentifierStart c = true) :
    Script.isNamePart c = true :=
  of_isIdentifierStart (P := fun c => Script.isNamePart c = true) (by decide +kernel) start

/-- A text begins as its first part between points does. -/
theorem exists_start {p : List Char → Bool} (nil : p [] = false)
    (cons : ∀ c rest, p (c :: rest) = true → Name.isIdentifierStart c = true)
    {text : List Char} (all : (Text.splitWhere (· == '.') text).all p = true) :
    ∃ c rest, text = c :: rest ∧ Name.isIdentifierStart c = true := by
  cases text with
  | nil => simp [Text.splitWhere, nil] at all
  | cons c rest =>
    rw [Text.splitWhere] at all
    split at all
    · simp [nil] at all
    · refine ⟨c, rest, rfl, ?_⟩
      cases parts : Text.splitWhere (· == '.') rest with
      | nil => exact absurd parts (Text.splitWhere_ne_nil _ rest)
      | cons part others =>
        rw [parts, Text.consFirst, List.all_cons, Bool.and_eq_true] at all
        exact cons c part all.1

theorem exists_start_of_isPath {text : List Char} (path : isPath text = true) :
    ∃ c rest, text = c :: rest ∧ Name.isIdentifierStart c = true := by
  refine exists_start (p := isMember) rfl ?_ path
  intro c rest member
  exact (Bool.and_eq_true_iff.1 member).1

theorem exists_start_of_isMemberPath {text : List Char} (path : Script.isMemberPath text = true) :
    ∃ c rest, text = c :: rest ∧ Name.isIdentifierStart c = true := by
  refine exists_start (p := Script.isName) rfl ?_ (Bool.and_eq_true_iff.1 path).1
  intro c rest name
  exact (Bool.and_eq_true_iff.1 name).1

/-- Names differ from what looks like names in a few characters only. -/
theorem all_isName_iff {text : List Char} (path : isPath text = true) :
    (Text.splitWhere (· == '.') text).all Script.isName = true ↔
      ∀ c ∈ text, c ≠ '.' → Script.isNamePart c = true := by
  have parts : ∀ c, (∃ part ∈ Text.splitWhere (· == '.') text, c ∈ part) ↔ c ∈ text ∧ c ≠ '.' := by
    intro c
    rw [← List.mem_flatten, Text.flatten_splitWhere, List.mem_filter]
    simp
  rw [List.all_eq_true]
  constructor
  · intro names c mem notPoint
    obtain ⟨part, isPart, inPart⟩ := (parts c).2 ⟨mem, notPoint⟩
    have name := names part isPart
    cases part with
    | nil => cases inPart
    | cons d rest =>
      obtain ⟨start, others⟩ := Bool.and_eq_true_iff.1 name
      rcases List.mem_cons.1 inPart with rfl | later
      · exact isNamePart_of_isIdentifierStart start
      · exact List.all_eq_true.1 others c later
  · intro characters part isPart
    have member := List.all_eq_true.1 path part isPart
    cases part with
    | nil => cases member
    | cons d rest =>
      refine Bool.and_eq_true_iff.2 ⟨(Bool.and_eq_true_iff.1 member).1, List.all_eq_true.2 ?_⟩
      intro c mem
      obtain ⟨inText, notPoint⟩ := (parts c).1 ⟨_, isPart, List.mem_cons_of_mem d mem⟩
      exact characters c inText notPoint

/-! ### Numbers -/

theorem isUnsigned_eq (text : List Char) :
    isUnsigned text =
      (isDigits (text.takeWhile (· != '.')) &&
        ((Text.cutFirst '.' text).map (·.2)).all isDigits) := by
  have whole := List.takeWhile_append_dropWhile (p := (· != '.')) (l := text)
  unfold isUnsigned Text.cutFirst
  cases dropped : text.dropWhile (· != '.') with
  | nil =>
    rw [dropped, List.append_nil] at whole
    simp [whole]
  | cons point after => simp

theorem withoutSign_of_ne {c : Char} (notSign : c ≠ '-') (rest : List Char) :
    Script.withoutSign (c :: rest) = c :: rest := by
  unfold Script.withoutSign
  split
  · rename_i same
    exact absurd (List.cons.inj same).1 notSign
  · rfl

theorem isNumber_of_ne {c : Char} (notSign : c ≠ '-') (rest : List Char) :
    isNumber (c :: rest) = isUnsigned (c :: rest) := by
  unfold isNumber
  split
  · rename_i same
    exact absurd (List.cons.inj same).1 notSign
  · rfl

theorem isNumber_eq (text : List Char) : isNumber text = isUnsigned (Script.withoutSign text) := by
  cases text with
  | nil => rfl
  | cons c rest =>
    by_cases sign : c = '-'
    · rw [sign]
      rfl
    · rw [isNumber_of_ne sign, withoutSign_of_ne sign]

theorem isDigits_iff {text : List Char} :
    Script.isDigits text = true ↔ isDigits text = true ∧ ∀ c ∈ text, c.isDigit = true := by
  simp only [Script.isDigits, isDigits, Bool.and_eq_true, List.all_eq_true]
  constructor
  · rintro ⟨some, digits⟩
    refine ⟨⟨some, fun c mem => ?_⟩, digits⟩
    simp [Text.isDecimalDigit, digits c mem]
  · rintro ⟨⟨some, _⟩, digits⟩
    exact ⟨some, digits⟩

/-- Sign and point aside, all characters are in front of the point or behind it. -/
theorem mem_parts_iff {text : List Char} {c : Char} (notSign : c ≠ '-') (notPoint : c ≠ '.') :
    c ∈ text ↔ c ∈ Script.wholePart text ∨
      ∃ fraction ∈ (Text.cutFirst '.' (Script.withoutSign text)).map (·.2), c ∈ fraction := by
  have signed : c ∈ text ↔ c ∈ Script.withoutSign text := by
    unfold Script.withoutSign
    split
    · simp [notSign]
    · rfl
  have whole := List.takeWhile_append_dropWhile (p := (· != '.')) (l := Script.withoutSign text)
  rw [signed, Script.wholePart]
  cases cut : Text.cutFirst '.' (Script.withoutSign text) with
  | none =>
    have dropped : (Script.withoutSign text).dropWhile (· != '.') = [] := by
      unfold Text.cutFirst at cut
      split at cut
      · assumption
      · cases cut
    rw [dropped, List.append_nil] at whole
    simp [whole]
  | some parts =>
    obtain ⟨before, after⟩ := parts
    obtain ⟨same, free⟩ := Text.cutFirst_eq_some cut
    have taken : (Script.withoutSign text).takeWhile (· != '.') = before := by
      rw [same, List.takeWhile_append_of_pos fun d mem => ?_]
      · simp
      · rw [bne_iff_ne]
        rintro rfl
        exact free mem
    rw [taken, same]
    simp [notPoint]

/-- A number is one in code if its digits are ASCII and no zero in front of them is idle. -/
theorem isDecimal_iff {text : List Char} (number : isNumber text = true) :
    Script.isDecimal text = true ↔
      (∀ c ∈ text, Text.isDecimalDigit c = true → c.isDigit = true) ∧
        Script.hasIdleZero (Script.wholePart text) = false := by
  rw [isNumber_eq, isUnsigned_eq, Bool.and_eq_true, Option.all_eq_true] at number
  obtain ⟨whole, fraction⟩ := number
  -- no digit is the sign or the point, so each is in one of the two parts
  have others : ∀ c, Text.isDecimalDigit c = true → c ≠ '-' ∧ c ≠ '.' := by
    refine fun c digit => ⟨?_, ?_⟩ <;> rintro rfl <;> revert digit <;> decide
  have digits : ∀ part : List Char, isDigits part = true →
      ∀ c ∈ part, Text.isDecimalDigit c = true := by
    intro part isPart
    exact List.all_eq_true.1 (Bool.and_eq_true_iff.1 isPart).2
  simp only [Script.isDecimal, Bool.and_eq_true, Bool.not_eq_true', Option.all_eq_true, isDigits_iff]
  constructor
  · rintro ⟨⟨⟨_, inWhole⟩, idle⟩, inFraction⟩
    refine ⟨fun c mem digit => ?_, idle⟩
    obtain ⟨notSign, notPoint⟩ := others c digit
    rcases (mem_parts_iff notSign notPoint).1 mem with front | ⟨part, isPart, behind⟩
    · exact inWhole c front
    · exact (inFraction part isPart).2 c behind
  · rintro ⟨ascii, idle⟩
    have each : ∀ part, isDigits part = true → (∀ c ∈ part, Text.isDecimalDigit c = true → c ∈ text) →
        isDigits part = true ∧ ∀ c ∈ part, c.isDigit = true := by
      intro part isPart inText
      refine ⟨isPart, fun c mem => ?_⟩
      exact ascii c (inText c mem (digits part isPart c mem)) (digits part isPart c mem)
    refine ⟨⟨each _ whole fun c mem digit => ?_, idle⟩, fun part isPart => ?_⟩
    · exact (mem_parts_iff (others c digit).1 (others c digit).2).2 (.inl mem)
    · refine each part (fraction part isPart) fun c mem digit => ?_
      exact (mem_parts_iff (others c digit).1 (others c digit).2).2 (.inr ⟨part, isPart, mem⟩)

theorem isNumber_of_isDecimal {text : List Char} (decimal : Script.isDecimal text = true) :
    isNumber text = true := by
  simp only [Script.isDecimal, Bool.and_eq_true, Option.all_eq_true, isDigits_iff] at decimal
  rw [isNumber_eq, isUnsigned_eq, Bool.and_eq_true, Option.all_eq_true]
  exact ⟨decimal.1.1.1, fun part isPart => (decimal.2 part isPart).1⟩

/-! ### Paths, numbers and objects begin differently -/

theorem exists_head_of_isNumber {text : List Char} (number : isNumber text = true) :
    ∃ c rest, text = c :: rest ∧ (c = '-' ∨ Text.isDecimalDigit c = true) := by
  rw [isNumber_eq, isUnsigned_eq, Bool.and_eq_true] at number
  obtain ⟨some, digits⟩ := Bool.and_eq_true_iff.1 number.1
  cases text with
  | nil => cases some
  | cons c rest =>
    refine ⟨c, rest, rfl, ?_⟩
    by_cases sign : c = '-'
    · exact .inl sign
    · rw [withoutSign_of_ne sign, List.takeWhile_cons] at some digits
      split at some
      · rename_i notPoint
        rw [if_pos notPoint] at digits
        exact .inr (List.all_eq_true.1 digits c List.mem_cons_self)
      · cases some

theorem not_isNumber_of_start {c : Char} (start : Name.isIdentifierStart c = true)
    (rest : List Char) : isNumber (c :: rest) ≠ true := by
  intro number
  have apart : c ≠ '-' ∧ Text.isDecimalDigit c = false :=
    of_isIdentifierStart (P := fun c => c ≠ '-' ∧ Text.isDecimalDigit c = false)
      (by decide +kernel) start
  obtain ⟨d, others, same, sign | digit⟩ := exists_head_of_isNumber number
  · exact apart.1 ((List.cons.inj same).1.trans sign)
  · rw [(List.cons.inj same).1, digit] at apart
    cases apart.2

theorem not_isObject_of_ne {c : Char} (notBrace : c ≠ '\x7b') (rest : List Char)
    (fields : List (String × List Nat)) : ¬ Script.IsObject (c :: rest) fields := by
  rintro ⟨inner, _, same⟩
  exact notBrace (List.cons.inj same).1

theorem isExpression_iff_of_isPath {body : List Char} (path : isPath body = true) :
    IsExpression body ↔
      (body = "true".toList ∨ body = "false".toList) ∨ Script.isMemberPath body = true := by
  obtain ⟨c, rest, rfl, start⟩ := exists_start_of_isPath path
  constructor
  · rintro (truth | path | decimal | ⟨fields, object⟩)
    · exact .inl truth
    · exact .inr path
    · exact absurd (isNumber_of_isDecimal decimal) (not_isNumber_of_start start rest)
    · have notBrace : c ≠ '\x7b' :=
        of_isIdentifierStart (P := fun c => c ≠ '\x7b') (by decide) start
      exact absurd object (not_isObject_of_ne notBrace rest fields)
  · rintro (truth | path)
    · exact .truth truth
    · exact .path path

theorem isExpression_iff_of_isNumber {body : List Char} (number : isNumber body = true) :
    IsExpression body ↔ Script.isDecimal body = true := by
  have notStart : ∀ c rest, body = c :: rest → ¬ Name.isIdentifierStart c = true := by
    rintro c rest rfl start
    exact not_isNumber_of_start start rest number
  refine ⟨?_, .number⟩
  rintro (truth | path | decimal | ⟨fields, object⟩)
  · rcases truth with same | same
    · exact absurd rfl (notStart 't' _ same)
    · exact absurd rfl (notStart 'f' _ same)
  · obtain ⟨c, rest, same, start⟩ := exists_start_of_isMemberPath path
    exact absurd start (notStart c rest same)
  · exact decimal
  · obtain ⟨c, rest, rfl, head⟩ := exists_head_of_isNumber number
    have notBrace : c ≠ '\x7b' := by
      rintro rfl
      revert head
      decide
    exact absurd object (not_isObject_of_ne notBrace rest fields)

/-- Of what looks like a path or a number, module code accepts what it does not refuse. -/
theorem isExpression_iff {body : List Char} (simple : isPath body = true ∨ isNumber body = true) :
    IsExpression body ↔ ¬ Refused body := by
  rcases simple with path | number
  · obtain ⟨c, rest, rfl, start⟩ := exists_start_of_isPath path
    have notNumber := not_isNumber_of_start start rest
    rw [isExpression_iff_of_isPath path, Script.isMemberPath, Bool.and_eq_true, all_isName_iff path]
    constructor
    · rintro accepted (⟨_, first, notTruth⟩ | ⟨_, d, mem, notPoint, outside⟩ | ⟨number⟩ | ⟨number⟩)
      · rcases accepted with truth | ⟨_, free⟩
        · exact truth.elim notTruth.1 notTruth.2
        · simp [first] at free
      · rcases accepted with truth | ⟨characters, _⟩
        · have letters : (c :: rest).all Char.isAlphanum = true := by
            rcases truth with same | same <;> rw [same] <;> decide
          have letter := List.all_eq_true.1 letters d mem
          rw [Script.isNamePart_of_isAlphanum letter] at outside
          cases outside
        · rw [characters d mem notPoint] at outside
          cases outside
      · exact notNumber number
      · exact notNumber number
    · intro accepted
      by_cases truth : c :: rest = "true".toList ∨ c :: rest = "false".toList
      · exact .inl truth
      · right
        constructor
        · intro d mem notPoint
          by_contra outside
          exact accepted (.character path d mem notPoint (by simpa using outside))
        · simp only [Bool.not_eq_true', List.contains_eq_mem, decide_eq_false_iff_not]
          intro first
          exact accepted (.reserved path first (not_or.1 truth))
  · rw [isExpression_iff_of_isNumber number, isDecimal_iff number]
    have notPath : isPath body ≠ true := by
      intro path
      obtain ⟨c, rest, rfl, start⟩ := exists_start_of_isPath path
      exact not_isNumber_of_start start rest number
    constructor
    · rintro ⟨ascii, idle⟩ (⟨path⟩ | ⟨path⟩ | ⟨_, c, mem, digit, notAscii⟩ | ⟨_, isIdle⟩)
      · exact notPath path
      · exact notPath path
      · rw [ascii c mem digit] at notAscii
        cases notAscii
      · rw [idle] at isIdle
        cases isIdle
    · intro accepted
      constructor
      · intro c mem digit
        by_contra notAscii
        exact accepted (.digit number c mem digit (by simpa using notAscii))
      · by_contra idle
        exact accepted (.zero number (by simpa using idle))

end JsxPages.Attribute
