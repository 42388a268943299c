import JsxPages.Proofs.Jsx.Written
import Mathlib.Order.Bounds.Defs
/-!
# Balanced code, and where an expression in braces ends

Code is balanced if it is made of whole string literals, of balanced code in braces and of
characters that are no quotes and no braces (`Balanced`). That says nothing of a reader who counts
braces, but the place of such a reader says of what kind the code behind it is: balanced, but for
as many open braces as the depth tells, and for the literal that the quote tells
(`CodeScan.IsBehind`). Every character keeps that true (`CodeScan.IsBehind.next`), so what the
reader takes for closed is what is balanced (`balanced_iff_closed`).

It follows that an expression in braces is balanced code between two braces
(`expressionLength_eq_some_iff`), and that it is the shortest balanced code that its text begins
with, whatever stands behind it (`expressionLength_isLeast`).
-/

namespace JsxPages.Jsx

/-- What stands between the quotes of a string literal. -/
inductive IsLiteralBody (quote : Char) : List Char → Prop
  | nil : IsLiteralBody quote []
  | plain {c : Char} {body : List Char} :
      c ≠ quote → c ≠ '\\' → IsLiteralBody quote body → IsLiteralBody quote (c :: body)
  | escape {body : List Char} (c : Char) :
      IsLiteralBody quote body → IsLiteralBody quote ('\\' :: c :: body)

/-- Code whose braces outside string literals are balanced and whose literals are all closed. -/
inductive Balanced : List Char → Prop
  | nil : Balanced []
  | plain {c : Char} {rest : List Char} : isInert c = true → Balanced rest → Balanced (c :: rest)
  | literal {quote : Char} {body rest : List Char} :
      isQuote quote = true → IsLiteralBody quote body → Balanced rest →
        Balanced (quote :: (body ++ quote :: rest))
  | braces {inner rest : List Char} :
      Balanced inner → Balanced rest → Balanced ('\x7b' :: (inner ++ '\x7d' :: rest))

theorem IsLiteralBody.append {quote : Char} {body more : List Char}
    (first : IsLiteralBody quote body) (second : IsLiteralBody quote more) :
    IsLiteralBody quote (body ++ more) := by
  induction first with
  | nil => exact second
  | plain notQuote notEscape _ ih => exact .plain notQuote notEscape ih
  | escape c _ ih => exact .escape c ih

theorem Balanced.append {code more : List Char} (first : Balanced code) (second : Balanced more) :
    Balanced (code ++ more) := by
  induction first with
  | nil => exact second
  | plain inert _ ih => exact .plain inert ih
  | literal isQuote' body _ ih =>
    rw [List.cons_append, List.append_assoc, List.cons_append]
    exact .literal isQuote' body ih
  | braces inner _ _ ih =>
    rw [List.cons_append, List.append_assoc, List.cons_append]
    exact .braces inner ih

/-- Balanced code that begins with a brace begins with balanced code in braces. -/
theorem Balanced.exists_braces {code : List Char} (balanced : Balanced ('\x7b' :: code)) :
    ∃ inner rest, Balanced inner ∧ code = inner ++ '\x7d' :: rest := by
  cases balanced with
  | plain inert _ => exact absurd inert (by decide)
  | literal isQuote' _ _ => exact absurd isQuote' (by decide)
  | braces inner _ => exact ⟨_, _, inner, rfl⟩

/-! ### Balanced code is closed -/

theorem IsLiteralBody.inside {quote : Char} {body : List Char} (isBody : IsLiteralBody quote body) :
    Inside quote body := by
  have step {code more : List Char} (first : Inside quote code) (second : Inside quote more) :
      Inside quote (code ++ more) := by
    rw [Inside, CodeScan.behind?_append, first]
    exact second
  induction isBody with
  | nil => rfl
  | plain notQuote notEscape _ ih => exact step (inside_singleton notQuote notEscape) ih
  | escape c _ ih => exact step (inside_escape quote c) ih

theorem Balanced.closed {code : List Char} (balanced : Balanced code) : Closed code := by
  induction balanced with
  | nil => exact closed_nil
  | plain inert _ ih => exact (closed_append_iff (List.forall_mem_singleton.2 inert)).2 ih
  | literal isQuote' body _ ih =>
    have whole := (closed_literal isQuote' body.inside).append ih
    rwa [List.cons_append, List.append_assoc, List.singleton_append] at whole
  | braces _ _ inner rest =>
    have whole := inner.braces.append rest
    rwa [List.cons_append, List.append_assoc, List.singleton_append] at whole

/-! ### What a reader knows of the code behind which it stands -/

namespace CodeScan

/-- The code behind which a reader stands, with the braces and the literal that are open in it. -/
inductive IsBehind : CodeScan → List Char → Prop
  | balanced {code : List Char} : Balanced code → IsBehind {} code
  | braces {depth : Nat} {before code : List Char} :
      IsBehind { depth } before → Balanced code →
        IsBehind { depth := depth + 1 } (before ++ '\x7b' :: code)
  | literal {depth : Nat} {quote : Char} {before body : List Char} :
      IsBehind { depth } before → isQuote quote = true → IsLiteralBody quote body →
        IsBehind { depth, quote := some quote } (before ++ quote :: body)
  | escape {depth : Nat} {quote : Char} {before : List Char} :
      IsBehind { depth, quote := some quote } before →
        IsBehind { depth, quote := some quote, escaped := true } (before ++ ['\\'])

namespace IsBehind

variable {scan after : CodeScan} {depth : Nat} {quote : Char} {before code : List Char}

theorem append (stands : IsBehind { depth } before) (balanced : Balanced code) :
    IsBehind { depth } (before ++ code) := by
  cases stands with
  | balanced first => exact .balanced (first.append balanced)
  | braces outer inner =>
    rw [List.append_assoc, List.cons_append]
    exact .braces outer (inner.append balanced)

theorem toBalanced (stands : scan.IsBehind code) (closed : scan.depth = 0)
    (outside : scan.quote = none) : Balanced code := by
  cases stands with
  | balanced whole => exact whole
  | braces => cases closed
  | literal => cases outside
  | escape => cases outside

theorem next_outside (stands : IsBehind { depth } code) {c : Char}
    (own : ¬ (c = '\x7d' ∧ depth = 0)) : (next { depth } c).IsBehind (code ++ [c]) := by
  unfold next
  dsimp only
  split_ifs with quotes opens closes
  · have isQuote' : isQuote c = true := by simpa [isQuote, or_assoc] using quotes
    exact .literal stands isQuote' .nil
  · subst opens
    exact .braces stands .nil
  · subst closes
    cases stands with
    | balanced => exact absurd ⟨rfl, rfl⟩ own
    | braces outer inner =>
      -- what stands behind the last open brace is whole now, and belongs to what is around it
      rw [List.append_assoc, List.cons_append]
      exact outer.append (.braces inner .nil)
  · have inert : isInert c = true := by
      simp only [not_or] at quotes
      simp [isInert, isQuote, quotes, opens, closes]
    exact stands.append (.plain inert .nil)

theorem next_literal (stands : IsBehind { depth, quote := some quote } code) (c : Char) :
    (next { depth, quote := some quote } c).IsBehind (code ++ [c]) := by
  cases stands with
  | literal outer isQuote' body =>
    unfold next
    dsimp only
    rw [if_neg Bool.false_ne_true]
    split_ifs with escapes ends
    · subst escapes
      exact .escape (.literal outer isQuote' body)
    · subst ends
      rw [List.append_assoc, List.cons_append]
      exact outer.append (.literal isQuote' body .nil)
    · rw [List.append_assoc, List.cons_append]
      exact .literal outer isQuote' (body.append (.plain ends escapes .nil))

theorem next_escape (stands : IsBehind { depth, quote := some quote } code) (c : Char) :
    (next { depth, quote := some quote, escaped := true } c).IsBehind (code ++ ['\\'] ++ [c]) := by
  cases stands with
  | literal outer isQuote' body =>
    rw [List.append_assoc, List.append_assoc, List.cons_append]
    exact .literal outer isQuote' (body.append (.escape c .nil))

/-- A character keeps true what the place of a reader says, unless it closes a brace that was not
opened. -/
theorem next (stands : scan.IsBehind code) {c : Char}
    (own : ¬ (scan.closesAt c ∧ scan.depth = 0)) : (scan.next c).IsBehind (code ++ [c]) := by
  have ownBrace (outside : scan.quote = none) : ¬ (c = '\x7d' ∧ scan.depth = 0) := by
    rintro ⟨closes, zero⟩
    exact own ⟨by simp [closesAt, outside, closes], zero⟩
  cases stands with
  | balanced whole => exact next_outside (.balanced whole) (ownBrace rfl)
  | braces outer inner => exact next_outside (.braces outer inner) (ownBrace rfl)
  | literal outer isQuote' body => exact next_literal (.literal outer isQuote' body) c
  | escape inside => exact next_escape inside c

theorem behind (stands : scan.IsBehind before) (reads : scan.behind? code = some after) :
    after.IsBehind (before ++ code) := by
  induction code generalizing scan before with
  | nil =>
    obtain rfl := Option.some.inj reads
    rwa [List.append_nil]
  | cons c code ih =>
    rw [behind?] at reads
    split at reads
    · cases reads
    · rename_i own
      have rest := ih (stands.next own) reads
      rwa [List.append_assoc, List.singleton_append] at rest

end IsBehind

end CodeScan

theorem Closed.balanced {code : List Char} (closed : Closed code) : Balanced code :=
  ((CodeScan.IsBehind.balanced .nil).behind closed).toBalanced rfl rfl

theorem balanced_iff_closed {code : List Char} : Balanced code ↔ Closed code :=
  ⟨Balanced.closed, Closed.balanced⟩

instance (code : List Char) : Decidable (Balanced code) :=
  decidable_of_iff' (Closed code) balanced_iff_closed

/-! ### Where an expression ends -/

namespace CodeScan

variable {scan after : CodeScan} {code text : List Char} {length : Nat} {c : Char}

theorem next_of_closesAt (closes : scan.closesAt c) :
    scan.next c = { scan with depth := scan.depth - 1, quote := none } := by
  obtain ⟨depth, quote, escaped⟩ := scan
  simp only [closesAt, Bool.and_eq_true, Option.isNone_iff_eq_none, beq_iff_eq] at closes
  obtain ⟨rfl, rfl⟩ := closes
  rfl

/-- Inside braces a reader stays there, unless the last of them is closed. -/
theorem depth_next_pos (opened : 0 < scan.depth) (goesOn : ¬ (scan.closesAt c ∧ scan.depth = 1)) :
    0 < (scan.next c).depth := by
  by_cases closes : scan.closesAt c
  · have deep : scan.depth ≠ 1 := fun last => goesOn ⟨closes, last⟩
    rw [next_of_closesAt closes]
    dsimp only
    omega
  · obtain ⟨depth, quote, escaped⟩ := scan
    cases quote with
    | some quote =>
      simp only [next]
      split_ifs <;> exact opened
    | none =>
      have notClose : c ≠ '\x7d' := by
        rintro rfl
        exact closes rfl
      simp only [next, if_neg notClose]
      split_ifs
      · exact opened
      · exact Nat.succ_pos depth
      · exact opened

/-- Inside braces no brace is closed that is not open. -/
theorem lengthToClose_cons (opened : 0 < scan.depth) (c : Char) (text : List Char) :
    scan.lengthToClose (c :: text) =
      if scan.closesAt c ∧ scan.depth = 1 then some 1
      else ((scan.next c).lengthToClose text).map (· + 1) := by
  rw [lengthToClose]
  by_cases ends : scan.closesAt c ∧ scan.depth = 1
  · rw [if_pos ⟨ends.1, Nat.le_of_eq ends.2⟩, if_pos ends.2, if_pos ends]
  · have goesOn : ¬ (scan.closesAt c ∧ scan.depth ≤ 1) :=
      fun both => ends ⟨both.1, Nat.le_antisymm both.2 opened⟩
    rw [if_neg goesOn, if_neg ends]

theorem behind?_cons (opened : 0 < scan.depth) (c : Char) (code : List Char) :
    scan.behind? (c :: code) = (scan.next c).behind? code := by
  rw [behind?, if_neg fun own => Nat.ne_of_gt opened own.2]

theorem exists_behind?_of_eq_none (opened : 0 < scan.depth)
    (goesOn : scan.lengthToClose code = none) :
    ∃ after, scan.behind? code = some after ∧ 0 < after.depth := by
  induction code generalizing scan with
  | nil => exact ⟨scan, rfl, opened⟩
  | cons c code ih =>
    rw [lengthToClose_cons opened] at goesOn
    split at goesOn
    · cases goesOn
    · rename_i inner
      rw [behind?_cons opened]
      exact ih (depth_next_pos opened inner) (Option.map_eq_none_iff.1 goesOn)

theorem exists_behind?_of_eq_some (opened : 0 < scan.depth)
    (closes : scan.lengthToClose text = some length) :
    ∃ after, scan.behind? (text.take length) = some after ∧ after.depth = 0 ∧ after.quote = none := by
  induction text generalizing scan length with
  | nil => cases closes
  | cons c text ih =>
    rw [lengthToClose_cons opened] at closes
    split at closes
    · rename_i ends
      obtain rfl := Option.some.inj closes
      refine ⟨scan.next c, behind?_cons opened c [], ?_⟩
      rw [next_of_closesAt ends.1, ends.2]
      exact ⟨rfl, rfl⟩
    · rename_i inner
      obtain ⟨behind, later, rfl⟩ := Option.map_eq_some_iff.1 closes
      rw [List.take_succ_cons, behind?_cons opened]
      exact ih (depth_next_pos opened inner) later

theorem foldl_next (reads : scan.behind? code = some after) : code.foldl next scan = after := by
  induction code generalizing scan with
  | nil => exact Option.some.inj reads
  | cons c code ih =>
    rw [behind?] at reads
    split at reads
    · cases reads
    · exact ih reads

end CodeScan

/-- An expression in braces is balanced code between its braces. -/
theorem expressionLength_eq_some_iff {rest : List Char} {length : Nat} :
    expressionLength ('\x7b' :: rest) = some length ↔
      ∃ inner after, Balanced inner ∧ rest = inner ++ '\x7d' :: after ∧ inner.length + 2 = length := by
  constructor
  · intro closes
    have opened : 0 < ({ depth := 1 } : CodeScan).depth := Nat.one_pos
    obtain ⟨last, inside, rfl⟩ := Option.map_eq_some_iff.1 closes
    obtain ⟨after, reads, closed, outside⟩ := CodeScan.exists_behind?_of_eq_some opened inside
    have begins : CodeScan.IsBehind { depth := 1 } ([] ++ ['\x7b']) :=
      .braces (.balanced .nil) .nil
    have taken : Balanced ('\x7b' :: rest.take last) :=
      (begins.behind reads).toBalanced closed outside
    obtain ⟨inner, more, balanced, split⟩ := taken.exists_braces
    -- nothing is left in `more`, but the length is told by `inner` alone
    have whole : rest = inner ++ '\x7d' :: (more ++ rest.drop last) := by
      rw [← List.cons_append, ← List.append_assoc, ← split, List.take_append_drop]
    refine ⟨inner, more ++ rest.drop last, balanced, whole, ?_⟩
    have same := expressionLength_closed balanced.closed (more ++ rest.drop last)
    rw [← whole, closes] at same
    exact (Option.some.inj same).symm
  · rintro ⟨inner, after, balanced, rfl, rfl⟩
    exact expressionLength_closed balanced.closed after

/-- A value in braces is read with its braces, and what follows it is left as it is. -/
theorem scanValue_brace_eq_some_iff {rest after : List Char} {value : WrittenValue} :
    scanValue ('\x7b' :: rest) = some (value, after) ↔
      ∃ inner, Balanced inner ∧ rest = inner ++ '\x7d' :: after ∧
        value = .expression (.ofList ('\x7b' :: (inner ++ ['\x7d']))) := by
  have read {inner : List Char} (balanced : Balanced inner) (behind : List Char) :
      scanValue ('\x7b' :: (inner ++ '\x7d' :: behind)) =
        some (.expression (.ofList ('\x7b' :: (inner ++ ['\x7d']))), behind) := by
    have scanned := scanValue_braced (isBraced_of_closed balanced.closed) behind
    rwa [List.cons_append, List.append_assoc, List.singleton_append] at scanned
  constructor
  · intro scanned
    have ends := scanned
    rw [scanValue, if_neg (by decide), if_pos rfl] at ends
    obtain ⟨length, closes, _⟩ := Option.map_eq_some_iff.1 ends
    obtain ⟨inner, behind, balanced, rfl, _⟩ := expressionLength_eq_some_iff.1 closes
    obtain ⟨rfl, rfl⟩ := Prod.mk.inj (Option.some.inj ((read balanced behind).symm.trans scanned))
    exact ⟨inner, balanced, rfl, rfl⟩
  · rintro ⟨inner, balanced, rfl, rfl⟩
    exact read balanced after

/-- Balanced code that a text begins with. -/
structure BalancedBeginning (code text : List Char) : Prop where
  some : code ≠ []
  begins : code <+: text
  balanced : Balanced code

theorem BalancedBeginning.exists_expressionLength {code rest : List Char}
    (beginning : BalancedBeginning code ('\x7b' :: rest)) :
    ∃ length ≤ code.length, ∀ more, expressionLength (code ++ more) = .some length := by
  obtain ⟨some, begins, balanced⟩ := beginning
  obtain ⟨c, code, rfl⟩ := List.exists_cons_of_ne_nil some
  obtain ⟨rfl, _⟩ := List.cons_prefix_cons.1 begins
  obtain ⟨inner, behind, inside, rfl⟩ := balanced.exists_braces
  refine ⟨inner.length + 2, by simp, fun more => ?_⟩
  rw [List.cons_append, List.append_assoc, List.cons_append]
  exact expressionLength_closed inside.closed (behind ++ more)

theorem exists_balancedBeginning {rest : List Char} {length : Nat}
    (closes : expressionLength ('\x7b' :: rest) = some length) :
    ∃ code, BalancedBeginning code ('\x7b' :: rest) ∧ code.length = length := by
  obtain ⟨inner, after, inside, rfl, rfl⟩ := expressionLength_eq_some_iff.1 closes
  refine ⟨'\x7b' :: (inner ++ ['\x7d']), ⟨List.cons_ne_nil _ _, ⟨after, by simp⟩, ?_⟩, by simp⟩
  exact .braces inside .nil

section

variable {rest code : List Char}

theorem BalancedBeginning.exists_length_le (beginning : BalancedBeginning code ('\x7b' :: rest)) :
    ∃ length ≤ code.length, expressionLength ('\x7b' :: rest) = .some length := by
  obtain ⟨length, short, same⟩ := beginning.exists_expressionLength
  obtain ⟨behind, whole⟩ := beginning.begins
  exact ⟨length, short, whole ▸ same behind⟩

/-- What stands behind balanced code does not matter. -/
theorem BalancedBeginning.expressionLength_append
    (beginning : BalancedBeginning code ('\x7b' :: rest)) (more : List Char) :
    expressionLength (code ++ more) = expressionLength ('\x7b' :: rest) := by
  obtain ⟨length, _, same⟩ := beginning.exists_expressionLength
  obtain ⟨behind, whole⟩ := beginning.begins
  rw [same more, ← whole, same behind]

theorem expressionLength_eq_some_iff_isLeast {length : Nat} :
    expressionLength ('\x7b' :: rest) = some length ↔
      IsLeast {n | ∃ code, BalancedBeginning code ('\x7b' :: rest) ∧ code.length = n} length := by
  constructor
  · intro closes
    refine ⟨exists_balancedBeginning closes, ?_⟩
    rintro _ ⟨code, beginning, rfl⟩
    obtain ⟨found, short, closes'⟩ := beginning.exists_length_le
    rw [closes] at closes'
    exact Option.some.inj closes' ▸ short
  · rintro ⟨⟨code, beginning, rfl⟩, least⟩
    obtain ⟨length, short, closes⟩ := beginning.exists_length_le
    rw [closes, Nat.le_antisymm short (least (exists_balancedBeginning closes))]

theorem expressionLength_eq_none_iff :
    expressionLength ('\x7b' :: rest) = none ↔
      ∀ code, ¬ BalancedBeginning code ('\x7b' :: rest) := by
  rw [Option.eq_none_iff_forall_ne_some]
  constructor
  · intro goesOn code beginning
    obtain ⟨length, _, closes⟩ := beginning.exists_length_le
    exact goesOn length closes
  · intro free length closes
    obtain ⟨code, beginning, _⟩ := exists_balancedBeginning closes
    exact free code beginning

/-- Up to the end of an expression a brace is open wherever one is closed. -/
theorem depth_pos_of_before_close {before after : List Char}
    (whole : '\x7b' :: rest = before ++ '\x7d' :: after)
    (early : ∀ length, expressionLength ('\x7b' :: rest) = some length → before.length < length) :
    0 < (before.foldl CodeScan.next {}).depth := by
  have goesOn : CodeScan.lengthToClose {} before = none := by
    rw [Option.eq_none_iff_forall_ne_some]
    intro length closes
    have short := (CodeScan.lengthToClose_take closes).1
    have same := CodeScan.lengthToClose_append closes ('\x7d' :: after)
    rw [← whole] at same
    exact absurd (early length same) (Nat.not_lt.2 short)
  cases before with
  | nil => cases whole
  | cons c before =>
    obtain ⟨rfl, _⟩ := List.cons.inj whole
    have opened : 0 < ({ depth := 1 } : CodeScan).depth := Nat.one_pos
    have inside : CodeScan.lengthToClose { depth := 1 } before = none :=
      Option.map_eq_none_iff.1 goesOn
    obtain ⟨last, reads, stillOpen⟩ := CodeScan.exists_behind?_of_eq_none opened inside
    exact (CodeScan.foldl_next reads).symm ▸ stillOpen

end

/-- **Where an expression in braces ends.** A text that begins with a brace has an expression of
some length exactly if the shortest balanced code that it begins with, the empty one aside, has
that length; and it has none exactly if it begins with no such code. Whatever stands behind such
code makes no difference. Up to the end of the expression, or of the text if there is none, a brace
is open wherever one is closed.

Lengths count characters here. The shortest code is the same in any unit, as of two beginnings of a
text the shorter begins the longer. -/
theorem expressionLength_isLeast {text : List Char} (begins : text.head? = some '\x7b') :
    (∀ length, expressionLength text = some length ↔
      IsLeast {n | ∃ code, BalancedBeginning code text ∧ code.length = n} length) ∧
    (expressionLength text = none ↔ ∀ code, ¬ BalancedBeginning code text) ∧
    (∀ code more, BalancedBeginning code text →
      expressionLength (code ++ more) = expressionLength text) ∧
    (∀ before after, text = before ++ '\x7d' :: after →
      (∀ length, expressionLength text = some length → before.length < length) →
        0 < (before.foldl CodeScan.next {}).depth) := by
  obtain ⟨rest, rfl⟩ := List.head?_eq_some_iff.1 begins
  refine ⟨fun length => expressionLength_eq_some_iff_isLeast, expressionLength_eq_none_iff, ?_, ?_⟩
  · intro code more beginning
    exact beginning.expressionLength_append more
  · intro before after whole early
    exact depth_pos_of_before_close whole early

/-- Braces and an escaped quote in a literal, a brace too many behind the expression, and a literal
that is never closed. -/
theorem expressionLength_isLeast_literals :
    "\x7b'\x7d\\''\x7d\x7d".toList.head? = some '\x7b' ∧
      IsLeast {n | ∃ code, BalancedBeginning code "\x7b'\x7d\\''\x7d\x7d".toList ∧
        code.length = n} 7 ∧
      expressionLength ("\x7b'\x7d\\''\x7d".toList ++ "'\x7b".toList) =
        expressionLength "\x7b'\x7d\\''\x7d\x7d".toList ∧
      0 < ("\x7b'\x7d\\''".toList.foldl CodeScan.next {}).depth ∧
      ∀ code, ¬ BalancedBeginning code "\x7b'\x7d".toList := by
  have begins : "\x7b'\x7d\\''\x7d\x7d".toList.head? = some '\x7b' := by decide
  obtain ⟨shortest, _, stable, opened⟩ := expressionLength_isLeast begins
  have least := (shortest 7).1 (by decide)
  refine ⟨begins, least, stable _ _ ⟨by decide, by decide, by decide⟩, ?_, ?_⟩
  · refine opened _ ['\x7d'] (by decide) fun length closes => ?_
    rw [← Option.some.inj (((shortest 7).2 least).symm.trans closes)]
    decide
  · have begins : "\x7b'\x7d".toList.head? = some '\x7b' := by decide
    exact (expressionLength_isLeast begins).2.1.1 (by decide)

end JsxPages.Jsx
