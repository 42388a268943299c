import JsxPages.Attribute.Convert
import JsxPages.Proofs.Script.StringLiteral
/-!
# Attribute literals, read as JSX

JSX reads the text between the double quotes of an attribute with its character references decoded:
`&`, a name or a number, and a semicolon. Which names there are is up to HTML and a parameter here.

Double quotes are written as references and read back as double quotes. Ampersands are written as
they are, so a value that already looks like a reference is read as what the reference stands for. A
reference always stands for less than it is written with, so such a value is never read back as
itself (`readLiteral_literal_iff`).
-/

namespace JsxPages.Jsx

open Script (units unitsOf pointUnits? number?)

/-! ### Character references -/

/-- Whether a character may stand in a reference, between its ends. -/
def inReference (c : Char) : Bool :=
  c.isAlphanum || c == '_' || c == '#'

/-- The code point of a reference with a given text between its ends. -/
def reference? (names : String → Option Char) : List Char → Option Nat
  | [] => none
  | '#' :: 'x' :: digits => if digits.all inReference then number? 16 digits else none
  | '#' :: digits => if digits.all inReference then number? 10 digits else none
  | name => if name.all inReference then (names (.ofList name)).map Char.toNat else none

/-- Reads a reference: its code point, and what follows. -/
def readReference (names : String → Option Char) : List Char → Option (Nat × List Char)
  | '&' :: text =>
    match text.dropWhile inReference with
    | ';' :: after => (reference? names (text.takeWhile inReference)).map (·, after)
    | _ => none
  | _ => none

/-- Whether a reference stands somewhere in a text. -/
def HasReference (names : String → Option Char) (text : List Char) : Prop :=
  ∃ before body after, text = before ++ '&' :: (body ++ ';' :: after) ∧
    (reference? names body).isSome

theorem inReference_of_reference? {names : String → Option Char} {body : List Char} {point : Nat}
    (read : reference? names body = some point) :
    body ≠ [] ∧ ∀ c ∈ body, inReference c = true := by
  unfold reference? at read
  split at read
  · cases read
  all_goals
    split at read
    · rename_i inside
      exact ⟨by simp_all, by simpa [inReference] using inside⟩
    · cases read

theorem readReference_eq_some {names : String → Option Char} {text after : List Char}
    {point : Nat} :
    readReference names text = some (point, after) ↔
      ∃ body, text = '&' :: (body ++ ';' :: after) ∧ reference? names body = some point := by
  constructor
  · intro read
    unfold readReference at read
    split at read
    · rename_i text
      split at read
      · rename_i behind dropped
        obtain ⟨_, known, same⟩ := Option.map_eq_some_iff.1 read
        obtain ⟨rfl, rfl⟩ := Prod.mk.inj same
        refine ⟨text.takeWhile inReference, ?_, known⟩
        rw [← dropped, List.takeWhile_append_dropWhile]
      · cases read
    · cases read
  · rintro ⟨body, rfl, known⟩
    have inside := (inReference_of_reference? known).2
    have taken : (body ++ ';' :: after).takeWhile inReference = body := by
      rw [List.takeWhile_append_of_pos inside]
      simp [inReference]
    have dropped : (body ++ ';' :: after).dropWhile inReference = ';' :: after := by
      rw [List.dropWhile_append_of_pos inside]
      simp [inReference]
    simp only [readReference, dropped, taken, known, Option.map_some]

theorem length_readReference_lt {names : String → Option Char} {c : Char}
    {rest after : List Char} {point : Nat}
    (read : readReference names (c :: rest) = some (point, after)) :
    after.length < (c :: rest).length := by
  obtain ⟨body, whole, _⟩ := readReference_eq_some.1 read
  rw [whole, List.length_cons, List.length_append, List.length_cons]
  omega

theorem hasReference_cons {names : String → Option Char} {c : Char} {rest : List Char} :
    HasReference names (c :: rest) ↔
      (readReference names (c :: rest)).isSome ∨ HasReference names rest := by
  constructor
  · rintro ⟨before, body, after, whole, known⟩
    cases before with
    | nil =>
      obtain ⟨point, known⟩ := Option.isSome_iff_exists.1 known
      have read := readReference_eq_some.2 ⟨body, whole, known⟩
      exact .inl (by rw [read]; rfl)
    | cons d before => exact .inr ⟨before, body, after, (List.cons.inj whole).2, known⟩
  · rintro (read | ⟨before, body, after, rfl, known⟩)
    · obtain ⟨⟨point, after⟩, read⟩ := Option.isSome_iff_exists.1 read
      obtain ⟨body, whole, known⟩ := readReference_eq_some.1 read
      exact ⟨[], body, after, whole, by rw [known]; rfl⟩
    · exact ⟨c :: before, body, after, rfl, known⟩

theorem not_hasReference_nil (names : String → Option Char) : ¬ HasReference names [] := by
  rintro ⟨before, body, after, none, _⟩
  simp at none

/-! ### Decoding -/

/-- A text with its references decoded. Numbers beyond the last code point are errors. -/
def decode (names : String → Option Char) (text : List Char) : Option (List Nat) :=
  match text with
  | [] => some []
  | c :: rest =>
    match h : readReference names (c :: rest) with
    | some (point, after) =>
      have : after.length < rest.length + 1 := length_readReference_lt h
      (pointUnits? point).bind fun value => (decode names after).map (value ++ ·)
    | none => (decode names rest).map (unitsOf c ++ ·)
termination_by text.length

theorem decode_of_readReference {names : String → Option Char} {text after : List Char}
    {point : Nat} (read : readReference names text = some (point, after)) :
    decode names text =
      (pointUnits? point).bind fun value => (decode names after).map (value ++ ·) := by
  cases text with
  | nil => cases read
  | cons c rest =>
    rw [decode]
    split
    · rename_i same
      rw [read] at same
      cases same
      rfl
    · rename_i none
      rw [read] at none
      cases none

theorem decode_cons {names : String → Option Char} {c : Char} {rest : List Char}
    (none : readReference names (c :: rest) = none) :
    decode names (c :: rest) = (decode names rest).map (unitsOf c ++ ·) := by
  rw [decode]
  split
  · rename_i read
    rw [none] at read
    cases read
  · rfl

/-- Decoding keeps a text without references and makes any other shorter. -/
theorem decode_cases (names : String → Option Char) (text : List Char) :
    ¬ HasReference names text ∧ decode names text = some (units text) ∨
      HasReference names text ∧
        ∀ value, decode names text = some value → value.length < (units text).length := by
  fun_induction decode names text with
  | case1 => exact .inl ⟨not_hasReference_nil names, rfl⟩
  | case2 c rest point after read _ ih =>
    right
    refine ⟨hasReference_cons.2 (.inl (by rw [read]; rfl)), fun value decoded => ?_⟩
    obtain ⟨first, known, others⟩ := Option.bind_eq_some_iff.1 decoded
    obtain ⟨later, decodedLater, rfl⟩ := Option.map_eq_some_iff.1 others
    have two := Script.length_pointUnits?_le known
    have bound : later.length ≤ (units after).length := by
      rcases ih with ⟨_, same⟩ | ⟨_, less⟩
      · rw [same] at decodedLater
        cases decodedLater
        exact Nat.le_refl _
      · exact Nat.le_of_lt (less later decodedLater)
    obtain ⟨body, whole, named⟩ := readReference_eq_some.1 read
    have some := List.length_pos_iff.2 (inReference_of_reference? named).1
    have written := Script.length_le_units body
    have opening := Script.length_unitsOf '&'
    have closing := Script.length_unitsOf ';'
    rw [whole]
    simp only [Script.units_cons, Script.units_append, List.length_append]
    omega
  | case3 c rest none ih =>
    rcases ih with ⟨free, same⟩ | ⟨has, less⟩
    · left
      rw [hasReference_cons, none, same]
      exact ⟨by simpa using free, rfl⟩
    · right
      refine ⟨hasReference_cons.2 (.inr has), fun value decoded => ?_⟩
      obtain ⟨later, decodedLater, rfl⟩ := Option.map_eq_some_iff.1 decoded
      have bound := less later decodedLater
      simp only [Script.units_cons, List.length_append]
      omega

theorem decode_eq_units_iff {names : String → Option Char} {text : List Char} :
    decode names text = some (units text) ↔ ¬ HasReference names text := by
  rcases decode_cases names text with ⟨free, same⟩ | ⟨has, less⟩
  · exact ⟨fun _ => free, fun _ => same⟩
  · exact ⟨fun same => absurd (less _ same) (Nat.lt_irrefl _), fun free => absurd has free⟩

/-! ### Quotes as references -/

/-- A text with its double quotes as references. -/
def escapeQuotes (text : List Char) : List Char :=
  text.flatMap fun c => if c = '"' then "&quot;".toList else [c]

theorem escapeQuotes_quote (rest : List Char) :
    escapeQuotes ('"' :: rest) = '&' :: ("quot".toList ++ ';' :: escapeQuotes rest) :=
  rfl

theorem escapeQuotes_cons {c : Char} (notQuote : c ≠ '"') (rest : List Char) :
    escapeQuotes (c :: rest) = c :: escapeQuotes rest := by
  rw [escapeQuotes, List.flatMap_cons, if_neg notQuote]
  rfl

theorem quote_notMem_escapeQuotes (text : List Char) : '"' ∉ escapeQuotes text := by
  intro mem
  obtain ⟨c, _, isPart⟩ := List.mem_flatMap.1 mem
  split at isPart
  · revert isPart
    decide
  · rename_i notQuote
    exact notQuote (List.mem_singleton.1 isPart).symm

theorem escapeQuotes_of_notMem {text : List Char} (free : '"' ∉ text) :
    escapeQuotes text = text := by
  induction text with
  | nil => rfl
  | cons c text ih =>
    obtain ⟨notQuote, others⟩ := not_or.1 (free ∘ List.mem_cons.2)
    rw [escapeQuotes_cons (Ne.symm notQuote), ih others]

theorem escapeQuotes_append_of_inReference {body : List Char}
    (inside : ∀ c ∈ body, inReference c = true) (rest : List Char) :
    escapeQuotes (body ++ rest) = body ++ escapeQuotes rest := by
  induction body with
  | nil => rfl
  | cons c body ih =>
    obtain ⟨first, others⟩ := List.forall_mem_cons.1 inside
    have notQuote : c ≠ '"' := by
      rintro rfl
      cases first
    rw [List.cons_append, escapeQuotes_cons notQuote, ih others, List.cons_append]

/-- What looks like the end of a reference is one that was there before. -/
theorem eq_append_of_escapeQuotes {body text after : List Char}
    (inside : ∀ c ∈ body, inReference c = true)
    (same : escapeQuotes text = body ++ ';' :: after) : ∃ rest, text = body ++ ';' :: rest := by
  induction body generalizing text with
  | nil =>
    cases text with
    | nil => cases same
    | cons c rest =>
      by_cases quote : c = '"'
      · rw [quote, escapeQuotes_quote] at same
        cases same
      · rw [escapeQuotes_cons quote] at same
        exact ⟨rest, by rw [(List.cons.inj same).1]; rfl⟩
  | cons d body ih =>
    obtain ⟨first, others⟩ := List.forall_mem_cons.1 inside
    cases text with
    | nil => cases same
    | cons c rest =>
      by_cases quote : c = '"'
      · rw [quote, escapeQuotes_quote] at same
        rw [← (List.cons.inj same).1] at first
        cases first
      · rw [escapeQuotes_cons quote] at same
        obtain ⟨rfl, tail⟩ := List.cons.inj same
        obtain ⟨behind, rfl⟩ := ih others tail
        exact ⟨behind, rfl⟩

/-- Written quotes are read as quotes, and nothing else is read differently. -/
theorem decode_escapeQuotes {names : String → Option Char} (quot : names "quot" = some '"')
    (text : List Char) : decode names (escapeQuotes text) = decode names text := by
  fun_induction decode names text with
  | case1 => rw [escapeQuotes, List.flatMap_nil, decode]
  | case2 c rest point after read _ ih =>
    obtain ⟨body, whole, known⟩ := readReference_eq_some.1 read
    have inside := (inReference_of_reference? known).2
    have written : escapeQuotes (c :: rest) = '&' :: (body ++ ';' :: escapeQuotes after) := by
      rw [whole, escapeQuotes_cons (by decide), escapeQuotes_append_of_inReference inside,
        escapeQuotes_cons (by decide)]
    rw [written, decode_of_readReference (readReference_eq_some.2 ⟨body, rfl, known⟩), ih]
  | case3 c rest none ih =>
    by_cases quote : c = '"'
    · have known : reference? names "quot".toList = some '"'.toNat := by
        simp [reference?, inReference, quot]
      have read := readReference_eq_some.2 ⟨_, escapeQuotes_quote rest, known⟩
      rw [quote, decode_of_readReference read, Script.pointUnits?_toNat, Option.bind_some, ih]
    · have still : readReference names (c :: escapeQuotes rest) = .none := by
        refine Option.eq_none_iff_forall_ne_some.2 fun ⟨point, after⟩ read => ?_
        obtain ⟨body, whole, known⟩ := readReference_eq_some.1 read
        obtain ⟨ampersand, tail⟩ := List.cons.inj whole
        obtain ⟨behind, rfl⟩ := eq_append_of_escapeQuotes (inReference_of_reference? known).2 tail
        rw [readReference_eq_some.2 ⟨body, by rw [ampersand], known⟩] at none
        cases none
      rw [escapeQuotes_cons quote, decode_cons still, ih]

/-! ### Literals -/

/-- Reads a literal between double quotes, and what follows it. -/
def readLiteral (names : String → Option Char) : List Char → Option (List Nat × List Char)
  | '"' :: text =>
    (Text.cutFirst '"' text).bind fun (inside, rest) => (decode names inside).map (·, rest)
  | _ => none

theorem toList_quotedText (value : String) :
    (quotedText value).toList = '"' :: (escapeQuotes value.toList ++ ['"']) := by
  have quote : "\"".toList = ['"'] := by decide
  rw [quotedText, String.toList_append, String.toList_append, quote, Text.replace,
    String.toList_ofList]
  rfl

theorem readLiteral_quotedText {names : String → Option Char} (quot : names "quot" = some '"')
    (value : String) (rest : List Char) :
    readLiteral names ((quotedText value).toList ++ rest) =
      (decode names value.toList).map (·, rest) := by
  have cut := Text.cutFirst_append (quote_notMem_escapeQuotes value.toList) rest
  rw [toList_quotedText, List.cons_append, List.append_assoc, List.singleton_append, readLiteral,
    cut, Option.bind_some]
  simp only [decode_escapeQuotes quot]

theorem value_text_inj {name : String} {value other : Value}
    (same : (⟨name, other⟩ : Attribute).text = (⟨name, value⟩ : Attribute).text) :
    other.text = value.text := by
  have texts := congrArg String.toList same
  simp only [Attribute.text, String.toList_append] at texts
  exact String.toList_injective (List.append_cancel_left texts)

/-- **Literals without references keep their values, and no others do.** Whatever attributes a tag
has, each literal that is written for it is read back as its value, with anything behind it, if and
only if no character reference stands in the value. Two values without references are never written
as the same attribute. -/
theorem readLiteral_literal_iff (names : String → Option Char) (quot : names "quot" = some '"')
    (assets : AssetMap) (options : Options) (tag : String) (attributes : List (String × String))
    (tables : Tables) :
    ∀ attr ∈ (Attribute.properties assets options tag attributes tables).1,
    ∀ value, attr.value = .literal value →
      (∀ rest, readLiteral names (attr.value.text.toList ++ rest) =
          some (units value.toList, rest) ↔ ¬ HasReference names value.toList) ∧
      ∀ other, (⟨attr.name, .literal other⟩ : Attribute).text = attr.text →
        ¬ HasReference names value.toList → ¬ HasReference names other.toList → other = value := by
  rintro ⟨name, _⟩ _ value rfl
  refine ⟨fun rest => ?_, fun other same free otherFree => ?_⟩
  · rw [Value.text, readLiteral_quotedText quot, ← decode_eq_units_iff]
    cases decode names value.toList <;> simp
  · have read := readLiteral_quotedText quot value []
    have literals : quotedText other = quotedText value := value_text_inj same
    rw [← literals, readLiteral_quotedText quot, decode_eq_units_iff.2 free,
      decode_eq_units_iff.2 otherFree] at read
    simp only [Option.map_some, Option.some.injEq, Prod.mk.injEq, and_true] at read
    exact String.toList_injective (Script.units_injective read)

/-- The references that all of HTML and XML know by name. -/
def commonNames (name : String) : Option Char :=
  [("amp", '&'), ("apos", '\''), ("gt", '>'), ("lt", '<'), ("quot", '"')].lookup name

theorem readLiteral_literal_inches :
    commonNames "quot" = some '"' ∧
      (⟨"title", .literal "5\" & more; &amp"⟩ : Attribute) ∈
        (Attribute.properties {} {} "p" [("title", "5\" & more; &amp")] {}).1 ∧
      ¬ HasReference commonNames "5\" & more; &amp".toList := by
  have mem : (⟨"title", .literal "5\" & more; &amp"⟩ : Attribute) ∈
      (Attribute.properties {} {} "p" [("title", "5\" & more; &amp")] {}).1 := by
    decide +kernel
  obtain ⟨read, _⟩ :=
    readLiteral_literal_iff commonNames (by decide) {} {} "p" _ {} _ mem _ rfl
  exact ⟨by decide, mem, (read []).1 (by decide +kernel)⟩

/-- A quote and the text of its reference are written as the same attribute. -/
theorem readLiteral_reference :
    let written := fun value => (Attribute.convert {} {} "p" [("title", value)] {}).1
    written "\"" = " title=\"&quot;\"" ∧ written "&quot;" = " title=\"&quot;\"" ∧
      readLiteral commonNames "\"&quot;\"".toList = some (units "\"".toList, []) ∧
      units "\"".toList ≠ units "&quot;".toList := by
  decide +kernel

end JsxPages.Jsx
