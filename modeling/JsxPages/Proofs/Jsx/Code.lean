import JsxPages.Jsx.Expression
import JsxPages.Jsx.StringLiteral
import JsxPages.Proofs.Text.Ascii
import JsxPages.Proofs.Text.Words
import Mathlib.Tactic.SplitIfs
/-!
# Code that keeps to its braces

A reader who counts braces finds the end of an expression if the code in it is closed: it closes no
brace that it did not open, and leaves neither a brace nor a string literal open (`Closed`). Closed
pieces of code make closed code when they are put together, be it one after the other
(`Closed.append`) or in braces (`Closed.braces`); and between its own braces closed code is found
again whole (`expressionLength_closed`).
-/

namespace JsxPages.Jsx

namespace CodeScan

/-- Where a reader stands behind some code, unless it closes a brace that was not opened. -/
def behind? (scan : CodeScan) : List Char → Option CodeScan
  | [] => some scan
  | c :: rest =>
    if scan.closesAt c ∧ scan.depth = 0 then none else (scan.next c).behind? rest

/-- The same place inside more braces. -/
def inside (scan : CodeScan) (braces : Nat) : CodeScan :=
  { scan with depth := scan.depth + braces }

theorem behind?_append (scan : CodeScan) (code more : List Char) :
    scan.behind? (code ++ more) = (scan.behind? code).bind (behind? · more) := by
  induction code generalizing scan with
  | nil => rfl
  | cons c code ih =>
    rw [List.cons_append, behind?, behind?]
    split
    · rfl
    · exact ih _

theorem closesAt_inside (scan : CodeScan) (braces : Nat) (c : Char) :
    (scan.inside braces).closesAt c = scan.closesAt c :=
  rfl

/-- A character that closes no brace of those around does the same in more braces. -/
theorem next_inside {scan : CodeScan} {c : Char} (own : ¬ (scan.closesAt c ∧ scan.depth = 0))
    (braces : Nat) : (scan.inside braces).next c = (scan.next c).inside braces := by
  obtain ⟨depth, quote, escaped⟩ := scan
  cases quote with
  | some quote =>
    cases escaped with
    | true => rfl
    | false =>
      by_cases escapes : c = '\\'
      · simp [next, inside, escapes]
      · simp only [next, inside, Bool.false_eq_true, if_false, if_neg escapes]
        by_cases ends : c = quote
        · rw [if_pos ends, if_pos ends]
        · rw [if_neg ends, if_neg ends]
  | none =>
    simp only [next, inside]
    split_ifs with quotes opens closes
    · rfl
    · simp [Nat.add_right_comm]
    · have positive : depth ≠ 0 := by
        rintro rfl
        exact own ⟨by simp [closesAt, closes], rfl⟩
      simp only [mk.injEq, and_true]
      omega
    · rfl

theorem behind?_inside {scan after : CodeScan} {code : List Char}
    (reads : scan.behind? code = some after) (braces : Nat) :
    (scan.inside braces).behind? code = some (after.inside braces) := by
  induction code generalizing scan with
  | nil =>
    obtain rfl := Option.some.inj reads
    rfl
  | cons c code ih =>
    rw [behind?] at reads ⊢
    split at reads
    · cases reads
    · rename_i own
      have stillOwn : ¬ ((scan.inside braces).closesAt c ∧ (scan.inside braces).depth = 0) := by
        rintro ⟨closes, zero⟩
        exact own ⟨closes, (Nat.add_eq_zero_iff.1 zero).1⟩
      rw [if_neg stillOwn, next_inside own, ih reads]

theorem lengthToClose_behind {scan after : CodeScan} {code : List Char}
    (reads : scan.behind? code = some after) (rest : List Char) :
    (scan.inside 1).lengthToClose (code ++ rest) =
      ((after.inside 1).lengthToClose rest).map (code.length + ·) := by
  induction code generalizing scan with
  | nil =>
    obtain rfl := Option.some.inj reads
    simp
  | cons c code ih =>
    rw [behind?] at reads
    split at reads
    · cases reads
    · rename_i own
      -- a brace that the code closes is one that it opened, so it is not the one around
      have goesOn : ¬ ((scan.inside 1).closesAt c ∧ (scan.inside 1).depth ≤ 1) := by
        rintro ⟨closes, shallow⟩
        rw [closesAt_inside] at closes
        have zero : scan.depth = 0 := Nat.le_zero.1 (Nat.le_of_succ_le_succ shallow)
        exact own ⟨closes, zero⟩
      rw [List.cons_append, lengthToClose, if_neg goesOn, next_inside own, ih reads,
        Option.map_map, List.length_cons]
      congr 1
      funext length
      simp only [Function.comp]
      omega

end CodeScan

open CodeScan (behind? behind?_append)

/-- Whether a piece of code opens and closes its own braces and string literals and no others. -/
def Closed (code : List Char) : Prop :=
  behind? {} code = some {}

instance (code : List Char) : Decidable (Closed code) :=
  inferInstanceAs (Decidable (_ = _))

theorem closed_nil : Closed [] :=
  rfl

theorem Closed.append {code more : List Char} (first : Closed code) (second : Closed more) :
    Closed (code ++ more) := by
  rw [Closed, behind?_append, first]
  exact second

theorem Closed.braces {code : List Char} (closed : Closed code) :
    Closed ('\x7b' :: (code ++ ['\x7d'])) := by
  have inner : behind? { depth := 1 } code = some { depth := 1 } :=
    CodeScan.behind?_inside closed 1
  change behind? { depth := 1 } (code ++ ['\x7d']) = _
  rw [behind?_append, inner]
  rfl

/-- An expression in braces is read through its last brace. -/
theorem expressionLength_closed {code : List Char} (closed : Closed code) (rest : List Char) :
    expressionLength ('\x7b' :: (code ++ '\x7d' :: rest)) = some (code.length + 2) := by
  have inner := CodeScan.lengthToClose_behind closed ('\x7d' :: rest)
  change CodeScan.lengthToClose { depth := 1 } (code ++ '\x7d' :: rest) = _ at inner
  change (CodeScan.lengthToClose { depth := 1 } (code ++ '\x7d' :: rest)).map (· + 1) = _
  rw [inner]
  rfl

/-! ### Characters without a meaning -/

def isQuote (c : Char) : Bool :=
  c == '"' || c == '\'' || c.toNat == 0x60

/-- Whether a character means nothing outside string literals. -/
def isInert (c : Char) : Bool :=
  !isQuote c && c != '\x7b' && c != '\x7d'

theorem next_inert {scan : CodeScan} (outside : scan.quote = none) {c : Char}
    (inert : isInert c = true) : scan.closesAt c = false ∧ scan.next c = scan := by
  simp only [isInert, isQuote, Bool.and_eq_true, Bool.not_eq_true', Bool.or_eq_false_iff,
    beq_eq_false_iff_ne, bne_iff_ne] at inert
  obtain ⟨⟨⟨⟨notDouble, notSingle⟩, notBack⟩, notOpen⟩, notClose⟩ := inert
  simp [CodeScan.closesAt, CodeScan.next, outside, notDouble, notSingle, notBack, notOpen, notClose]

theorem behind?_inert {scan : CodeScan} (outside : scan.quote = none) {text : List Char}
    (inert : ∀ c ∈ text, isInert c = true) : scan.behind? text = some scan := by
  induction text with
  | nil => rfl
  | cons c text ih =>
    obtain ⟨first, others⟩ := List.forall_mem_cons.1 inert
    obtain ⟨stays, same⟩ := next_inert outside first
    rw [CodeScan.behind?, if_neg (by simp [stays]), same, ih others]

theorem closed_of_inert {text : List Char} (inert : ∀ c ∈ text, isInert c = true) : Closed text :=
  behind?_inert rfl inert

theorem closed_append_iff {text code : List Char} (inert : ∀ c ∈ text, isInert c = true) :
    Closed (text ++ code) ↔ Closed code := by
  rw [Closed, behind?_append, behind?_inert rfl inert]
  rfl

/-- Only quotes open string literals. -/
def CodeScan.IsSound (scan : CodeScan) : Prop :=
  ∀ quote, scan.quote = some quote → isQuote quote = true

theorem CodeScan.IsSound.next {scan : CodeScan} (sound : scan.IsSound) (c : Char) :
    (scan.next c).IsSound := by
  intro quote
  unfold CodeScan.next
  split
  · rename_i inner open'
    split_ifs <;> intro same
    · exact sound quote same
    · exact sound quote same
    · cases same
    · exact sound quote same
  · rename_i none
    split_ifs with quotes <;> intro same
    · obtain rfl := Option.some.inj same
      simpa [isQuote, or_assoc] using quotes
    · exact sound quote same
    · exact sound quote same
    · exact sound quote same

theorem CodeScan.IsSound.behind {scan after : CodeScan} (sound : scan.IsSound)
    {code : List Char} (reads : scan.behind? code = some after) : after.IsSound := by
  induction code generalizing scan with
  | nil => exact Option.some.inj reads ▸ sound
  | cons c code ih =>
    rw [CodeScan.behind?] at reads
    split at reads
    · cases reads
    · exact ih (sound.next c) reads

/-- Without quotes and backslashes no string literal ends. -/
theorem quote_of_behind? {scan after : CodeScan} {quote : Char} (inside : scan.quote = some quote)
    (isQuote' : isQuote quote = true) {blanks : List Char}
    (blank : ∀ c ∈ blanks, isInert c = true ∧ c ≠ '\\')
    (reads : scan.behind? blanks = some after) : after.quote = some quote := by
  induction blanks generalizing scan with
  | nil => exact Option.some.inj reads ▸ inside
  | cons c blanks ih =>
    obtain ⟨⟨inert, notEscape⟩, others⟩ := List.forall_mem_cons.1 blank
    have notQuote : c ≠ quote := by
      rintro rfl
      simp [isInert, isQuote'] at inert
    rw [CodeScan.behind?] at reads
    split at reads
    · cases reads
    · refine ih ?_ others reads
      simp only [CodeScan.next, inside, if_neg notEscape, if_neg notQuote]
      split
      · rfl
      · exact inside

/-- What ends outside with blanks behind it ends outside without them. -/
theorem eq_of_behind?_blanks {scan : CodeScan} (sound : scan.IsSound) {blanks : List Char}
    (blank : ∀ c ∈ blanks, isInert c = true ∧ c ≠ '\\')
    (reads : scan.behind? blanks = some {}) : scan = {} := by
  cases open' : scan.quote with
  | none =>
    rw [behind?_inert open' fun c mem => (blank c mem).1] at reads
    exact Option.some.inj reads
  | some quote =>
    have still := quote_of_behind? open' (sound quote open') blank reads
    cases still

theorem Closed.of_append {code blanks : List Char}
    (blank : ∀ c ∈ blanks, isInert c = true ∧ c ≠ '\\') (closed : Closed (code ++ blanks)) :
    Closed code := by
  rw [Closed, behind?_append] at closed
  obtain ⟨scan, reads, ends⟩ := Option.bind_eq_some_iff.1 closed
  have sound : scan.IsSound := CodeScan.IsSound.behind (by rintro _ ⟨⟩) reads
  rw [Closed, reads, eq_of_behind?_blanks sound blank ends]

/-- Characters that ASCII tells to be no quotes, braces or backslashes. -/
theorem isInert_of {p : Char → Bool}
    (ascii : ∀ code < 128, p (Char.ofNat code) = true →
      isInert (Char.ofNat code) = true ∧ Char.ofNat code ≠ '\\')
    {c : Char} (holds : p c = true) : isInert c = true ∧ c ≠ '\\' := by
  by_cases small : c.toNat < 128
  · exact Text.forall_ascii
      (P := fun c => p c = true → isInert c = true ∧ c ≠ '\\') ascii small holds
  · have other (d : Char) (isAscii : d.toNat < 128) : c ≠ d := fun same => small (same ▸ isAscii)
    have notBack : c.toNat ≠ 0x60 := by omega
    simp [isInert, isQuote, notBack, other '"' (by decide), other '\'' (by decide),
      other '\x7b' (by decide), other '\x7d' (by decide), other '\\' (by decide)]

theorem isInert_of_isBlank {c : Char} (blank : Text.isBlank c = true) :
    isInert c = true ∧ c ≠ '\\' :=
  isInert_of (by decide +kernel) blank

/-- Blanks around it do not matter to closed code. -/
theorem Closed.trim {text : String} (closed : Closed text.toList) :
    Closed (Text.trim text).toList := by
  obtain ⟨before, after, whole, blankBefore, blankAfter⟩ :=
    Text.exists_trimWhere Text.isBlank text.toList
  rw [whole, List.append_assoc,
    closed_append_iff fun c mem => (isInert_of_isBlank (blankBefore c mem)).1] at closed
  rw [Text.trim, String.toList_ofList]
  exact closed.of_append fun c mem => isInert_of_isBlank (blankAfter c mem)

/-! ### String literals -/

/-- Code that leaves a string literal open where it was open. -/
def Inside (quote : Char) (code : List Char) : Prop :=
  behind? { quote := some quote } code = some { quote := some quote }

theorem inside_flatMap {quote : Char} {write : Char → List Char} {text : List Char}
    (inside : ∀ c ∈ text, Inside quote (write c)) : Inside quote (text.flatMap write) := by
  induction text with
  | nil => rfl
  | cons c text ih =>
    obtain ⟨first, others⟩ := List.forall_mem_cons.1 inside
    rw [Inside, List.flatMap_cons, behind?_append, first]
    exact ih others

theorem inside_singleton {quote c : Char} (notQuote : c ≠ quote) (notEscape : c ≠ '\\') :
    Inside quote [c] := by
  simp [Inside, behind?, CodeScan.next, CodeScan.closesAt, notQuote, notEscape]

theorem inside_escape (quote c : Char) : Inside quote ['\\', c] := by
  simp [Inside, behind?, CodeScan.next, CodeScan.closesAt]

theorem single_notMem_literalChar {c : Char} (notSingle : c ≠ '\'') : '\'' ∉ literalChar c := by
  unfold literalChar
  split
  · decide
  · decide
  · decide
  · exact fun mem => notSingle (List.mem_singleton.1 mem).symm

theorem inside_literalChar {quote c : Char} (free : quote ∉ literalChar c) :
    Inside quote (literalChar c) := by
  unfold literalChar at free ⊢
  split at free
  · exact inside_escape _ _
  · exact inside_escape _ _
  · rfl
  · rename_i notEscape _ _
    exact inside_singleton (fun same => free (by simp [same])) notEscape

/-- Single quotes are escaped, and nothing else is changed. -/
theorem flatMap_escapeSingle_literalChar (c : Char) :
    (literalChar c).flatMap escapeSingle = if c = '\'' then ['\\', '\''] else literalChar c := by
  by_cases single : c = '\''
  · subst single
    rfl
  · rw [if_neg single]
    unfold literalChar
    split
    · rfl
    · rfl
    · rfl
    · simp [escapeSingle, single]

theorem closed_literal {quote : Char} (isQuote' : isQuote quote = true) {body : List Char}
    (inside : Inside quote body) : Closed (quote :: (body ++ [quote])) := by
  have opens : ¬ (CodeScan.closesAt {} quote ∧ ({} : CodeScan).depth = 0) := by
    rintro ⟨closes, _⟩
    have brace : quote = '\x7d' := by simpa [CodeScan.closesAt] using closes
    rw [brace] at isQuote'
    revert isQuote'
    decide
  have opened : CodeScan.next {} quote = { quote := some quote } := by
    have isOpening : quote = '"' ∨ quote = '\'' ∨ quote.toNat = 0x60 := by
      simpa [isQuote, or_assoc] using isQuote'
    simp [CodeScan.next, isOpening]
  have notEscape : quote ≠ '\\' := by
    rintro rfl
    revert isQuote'
    decide
  rw [Closed, behind?, if_neg opens, opened, behind?_append, inside]
  simp [behind?, CodeScan.next, CodeScan.closesAt, notEscape]

theorem closed_stringLiteral (value : String) : Closed (stringLiteral value).toList := by
  unfold stringLiteral
  dsimp only
  rw [String.toList_ofList]
  split
  · rename_i double
    have free : '"' ∉ value.toList.flatMap literalChar := by simp_all
    refine closed_literal (by decide) (inside_flatMap fun c mem => inside_literalChar ?_)
    exact fun isPart => free (List.mem_flatMap.2 ⟨c, mem, isPart⟩)
  · rw [List.flatMap_assoc]
    refine closed_literal (by decide) (inside_flatMap fun c _ => ?_)
    rw [flatMap_escapeSingle_literalChar]
    split
    · exact inside_escape _ _
    · rename_i notSingle
      exact inside_literalChar (single_notMem_literalChar notSingle)

end JsxPages.Jsx
