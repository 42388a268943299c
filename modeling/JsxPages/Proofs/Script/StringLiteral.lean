import JsxPages.Proofs.Text.Cuts
/-!
# String literals of a script, read

A script reads a literal between two equal quotes as a sequence of UTF-16 code units. Most
characters stand for themselves; a backslash takes what follows with it, and a raw line feed or
carriage return makes the literal end without its quote, which is an error. Literals are read as
modules read them, where the old octal escapes are errors too.

An escape always stands for less than it is written with. So a literal has the value that is written
between its quotes only if no escape is there at all (`readString_cases`).
-/

namespace JsxPages.Script

/-! ### Code units -/

/-- The code units of a code point. -/
def pointUnits (point : Nat) : List Nat :=
  if point < 0x10000 then [point]
  else [0xD800 + (point - 0x10000) / 0x400, 0xDC00 + (point - 0x10000) % 0x400]

/-- The same for any number, which is refused if it is no code point. -/
def pointUnits? (point : Nat) : Option (List Nat) :=
  if point ≤ 0x10FFFF then some (pointUnits point) else none

def unitsOf (c : Char) : List Nat :=
  pointUnits c.toNat

/-- A text as the value of a string. -/
def units (text : List Char) : List Nat :=
  text.flatMap unitsOf

@[simp] theorem units_nil : units [] = [] :=
  rfl

@[simp] theorem units_cons (c : Char) (rest : List Char) :
    units (c :: rest) = unitsOf c ++ units rest :=
  rfl

@[simp] theorem units_append (text rest : List Char) :
    units (text ++ rest) = units text ++ units rest :=
  List.flatMap_append

theorem length_pointUnits (point : Nat) :
    0 < (pointUnits point).length ∧ (pointUnits point).length ≤ 2 := by
  unfold pointUnits
  split <;> simp

theorem length_unitsOf (c : Char) : 0 < (unitsOf c).length ∧ (unitsOf c).length ≤ 2 :=
  length_pointUnits c.toNat

theorem length_pointUnits?_le {point : Nat} {value : List Nat}
    (read : pointUnits? point = some value) : value.length ≤ 2 := by
  unfold pointUnits? at read
  split at read
  · cases read
    exact (length_pointUnits point).2
  · cases read

theorem pointUnits?_toNat (c : Char) : pointUnits? c.toNat = some (unitsOf c) := by
  have small : c.toNat ≤ 0x10FFFF := by
    have valid := c.valid
    simp only [UInt32.isValidChar, Nat.isValidChar] at valid
    change c.val.toNat ≤ _
    omega
  rw [pointUnits?, if_pos small, unitsOf]

theorem length_le_units (text : List Char) : text.length ≤ (units text).length := by
  induction text with
  | nil => exact Nat.le_refl 0
  | cons c rest ih =>
    have one := length_unitsOf c
    simp only [units_cons, List.length_cons, List.length_append]
    omega

theorem units_injective {text other : List Char} (same : units text = units other) :
    text = other := by
  induction text generalizing other with
  | nil =>
    have bound := length_le_units other
    rw [← same, units_nil] at bound
    exact (List.length_eq_zero_iff.1 (Nat.le_zero.1 bound)).symm
  | cons c text ih =>
    cases other with
    | nil =>
      have one := length_unitsOf c
      have none := congrArg List.length same
      simp only [units_cons, List.length_append, units_nil, List.length_nil] at none
      omega
    | cons d other =>
      -- Characters are never surrogates, so the first unit says how many units there are.
      have cValid := c.valid
      have dValid := d.valid
      simp only [UInt32.isValidChar, Nat.isValidChar] at cValid dValid
      change c.toNat < _ ∨ _ < c.toNat ∧ c.toNat < _ at cValid
      change d.toNat < _ ∨ _ < d.toNat ∧ d.toNat < _ at dValid
      simp only [units_cons, unitsOf, pointUnits] at same
      have both : c.toNat = d.toNat ∧ units text = units other := by
        split at same <;> split at same <;>
          simp only [List.cons_append, List.nil_append, List.cons.injEq] at same
        · exact same
        · omega
        · omega
        · exact ⟨by omega, same.2.2⟩
      rw [Char.toNat_inj.1 both.1, ih both.2]

/-! ### Escapes -/

/-- Characters that stand for another one behind a backslash. -/
def singleEscapes : List (Char × Nat) :=
  [('b', 8), ('t', 9), ('n', 10), ('v', 11), ('f', 12), ('r', 13)]

def isLineTerminator (c : Char) : Bool :=
  c == '\n' || c == '\r' || c.toNat == 0x2028 || c.toNat == 0x2029

def hexDigit? (c : Char) : Option Nat :=
  if c.isDigit then some (c.toNat - 48)
  else if 'a' ≤ c ∧ c ≤ 'f' then some (c.toNat - 87)
  else if 'A' ≤ c ∧ c ≤ 'F' then some (c.toNat - 55)
  else none

/-- The number that digits of a base up to 16 stand for; no digits stand for none. -/
def number? (base : Nat) : List Char → Option Nat
  | [] => none
  | digits =>
    (digits.mapM fun c => (hexDigit? c).filter (· < base)).map
      (List.foldl (fun number digit => number * base + digit) 0)

/-- Reads a code unit of a given number of hexadecimal digits. -/
def readUnit (count : Nat) (text : List Char) : Option (List Nat × List Char) :=
  if text.length < count then none
  else (number? 16 (text.take count)).map fun unit => ([unit], text.drop count)

/-- Reads a code point, behind its opening brace. -/
def readCodePoint (text : List Char) : Option (List Nat × List Char) :=
  (Text.cutFirst '\x7d' text).bind fun (digits, rest) =>
    ((number? 16 digits).bind pointUnits?).map fun value => (value, rest)

/-- Reads what stands behind a backslash: its value, and what follows. A backslash in front of a
line break stands for nothing. -/
def readEscape : List Char → Option (List Nat × List Char)
  | [] => none
  | '\r' :: '\n' :: rest => some ([], rest)
  | 'x' :: rest => readUnit 2 rest
  | 'u' :: '\x7b' :: rest => readCodePoint rest
  | 'u' :: rest => readUnit 4 rest
  | '0' :: rest => if rest.head?.any Char.isDigit then none else some ([0], rest)
  | c :: rest =>
    if c.isDigit then none
    else if isLineTerminator c then some ([], rest)
    else some (((singleEscapes.lookup c).map ([·])).getD (unitsOf c), rest)

/-- An escape is written with at least as many code units as it stands for, the backslash aside. -/
def Consumes (text : List Char) (value : List Nat) (rest : List Char) : Prop :=
  ∃ written, text = written ++ rest ∧ written ≠ [] ∧ value.length ≤ (units written).length

theorem consumes_cons {c : Char} {text rest : List Char} {value : List Nat}
    (consumes : Consumes text value rest) : Consumes (c :: text) value rest := by
  obtain ⟨written, rfl, _, bound⟩ := consumes
  refine ⟨c :: written, rfl, by simp, ?_⟩
  rw [units_cons, List.length_append]
  omega

theorem consumes_head {c : Char} {value : List Nat} (rest : List Char)
    (bound : value.length ≤ (unitsOf c).length) : Consumes (c :: rest) value rest :=
  ⟨[c], rfl, by simp, by simpa using bound⟩

theorem consumes_readUnit {count : Nat} {text rest : List Char} {value : List Nat}
    (positive : 0 < count) (read : readUnit count text = some (value, rest)) :
    Consumes text value rest := by
  unfold readUnit at read
  split at read
  · cases read
  rename_i enough
  obtain ⟨unit, _, same⟩ := Option.map_eq_some_iff.1 read
  obtain ⟨rfl, rfl⟩ := Prod.mk.inj same
  have taken : (text.take count).length = count := by
    rw [List.length_take]
    omega
  refine ⟨text.take count, (List.take_append_drop count text).symm, ?_, ?_⟩
  · intro none
    rw [none, List.length_nil] at taken
    omega
  · have bound := length_le_units (text.take count)
    rw [List.length_singleton]
    omega

theorem consumes_readCodePoint {text rest : List Char} {value : List Nat}
    (read : readCodePoint text = some (value, rest)) : Consumes ('\x7b' :: text) value rest := by
  simp only [readCodePoint, Option.bind_eq_some_iff, Option.map_eq_some_iff] at read
  obtain ⟨⟨digits, after⟩, cut, value, ⟨point, _, inRange⟩, same⟩ := read
  obtain ⟨rfl, rfl⟩ := Prod.mk.inj same
  obtain ⟨rfl, _⟩ := Text.cutFirst_eq_some cut
  have short := length_pointUnits?_le inRange
  refine ⟨'\x7b' :: digits ++ ['\x7d'], ?_, by simp, ?_⟩
  · simp
  · have bound := length_le_units ('\x7b' :: digits ++ ['\x7d'])
    rw [List.length_append, List.length_cons, List.length_singleton] at bound
    omega

theorem consumes_readEscape {text rest : List Char} {value : List Nat}
    (read : readEscape text = some (value, rest)) : Consumes text value rest := by
  unfold readEscape at read
  split at read
  · cases read
  · obtain ⟨rfl, rfl⟩ := Prod.mk.inj (Option.some.inj read)
    exact consumes_cons (consumes_head _ (Nat.zero_le _))
  · exact consumes_cons (consumes_readUnit (by decide) read)
  · exact consumes_cons (consumes_readCodePoint read)
  · exact consumes_cons (consumes_readUnit (by decide) read)
  · split at read
    · cases read
    · obtain ⟨rfl, rfl⟩ := Prod.mk.inj (Option.some.inj read)
      exact consumes_head _ (length_unitsOf _).1
  · rename_i c after _ _ _ _ _
    split at read
    · cases read
    split at read
    · obtain ⟨rfl, rfl⟩ := Prod.mk.inj (Option.some.inj read)
      exact consumes_head _ (Nat.zero_le _)
    · obtain ⟨rfl, rfl⟩ := Prod.mk.inj (Option.some.inj read)
      refine consumes_head _ ?_
      cases singleEscapes.lookup c with
      | none => exact Nat.le_refl _
      | some unit => exact (length_unitsOf c).1

theorem length_readEscape_lt {text rest : List Char} {value : List Nat}
    (read : readEscape text = some (value, rest)) : rest.length < text.length := by
  obtain ⟨written, rfl, nonempty, _⟩ := consumes_readEscape read
  have positive := List.length_pos_iff.2 nonempty
  rw [List.length_append]
  omega

/-! ### Literals -/

/-- Reads a literal behind its opening quote: its value, and what follows the closing quote. -/
def readString (quote : Char) (text : List Char) : Option (List Nat × List Char) :=
  match text with
  | [] => none
  | c :: rest =>
    if c = quote then
      some ([], rest)
    else if c = '\n' ∨ c = '\r' then
      none
    else if c = '\\' then
      match h : readEscape rest with
      | none => none
      | some (value, after) =>
        have : after.length < rest.length := length_readEscape_lt h
        (readString quote after).map fun (values, behind) => (value ++ values, behind)
    else
      (readString quote rest).map fun (values, behind) => (unitsOf c ++ values, behind)
termination_by text.length

/-- Whether a character stands for itself between two quotes. -/
def isPlain (quote c : Char) : Bool :=
  c != quote && c != '\n' && c != '\r' && c != '\\'

theorem readString_plain {quote : Char} {body : List Char}
    (plain : ∀ c ∈ body, isPlain quote c = true) (rest : List Char) :
    readString quote (body ++ quote :: rest) = some (units body, rest) := by
  induction body with
  | nil => simp [readString]
  | cons c body ih =>
    obtain ⟨first, others⟩ := List.forall_mem_cons.1 plain
    simp only [isPlain, Bool.and_eq_true, bne_iff_ne] at first
    obtain ⟨⟨⟨notQuote, notFeed⟩, notReturn⟩, notEscape⟩ := first
    rw [List.cons_append, readString, if_neg notQuote, if_neg (by simp [notFeed, notReturn]),
      if_neg notEscape, ih others]
    rfl

theorem length_readString_lt {quote : Char} {text rest : List Char} {value : List Nat}
    (read : readString quote text = some (value, rest)) : rest.length < text.length := by
  fun_induction readString quote text generalizing value with
  | case1 => cases read
  | case2 after =>
    obtain ⟨_, rfl⟩ := Prod.mk.inj (Option.some.inj read)
    exact Nat.lt_succ_self _
  | case3 => cases read
  | case4 => cases read
  | case5 _ _ _ escape _ _ _ ih =>
    obtain ⟨⟨values, behind⟩, readRest, same⟩ := Option.map_eq_some_iff.1 read
    obtain ⟨_, rfl⟩ := Prod.mk.inj same
    have shorter := length_readEscape_lt escape
    have bound := ih readRest
    rw [List.length_cons]
    omega
  | case6 _ _ _ _ _ ih =>
    obtain ⟨⟨values, behind⟩, readRest, same⟩ := Option.map_eq_some_iff.1 read
    obtain ⟨_, rfl⟩ := Prod.mk.inj same
    have bound := ih readRest
    rw [List.length_cons]
    omega

/-- A literal is read as what is written in it, and then no character in it is special; or it is
read as less. -/
theorem readString_cases {quote : Char} {text rest : List Char} {value : List Nat}
    (read : readString quote text = some (value, rest)) :
    (∃ body, text = body ++ quote :: rest ∧ value = units body ∧
      ∀ c ∈ body, isPlain quote c = true) ∨
    value.length + (units (quote :: rest)).length < (units text).length := by
  fun_induction readString quote text generalizing value with
  | case1 => cases read
  | case2 after =>
    obtain ⟨rfl, rfl⟩ := Prod.mk.inj (Option.some.inj read)
    exact .inl ⟨[], rfl, rfl, by simp⟩
  | case3 => cases read
  | case4 => cases read
  | case5 written' value' after escape _ _ _ ih =>
    obtain ⟨⟨values, behind⟩, readRest, same⟩ := Option.map_eq_some_iff.1 read
    obtain ⟨rfl, rfl⟩ := Prod.mk.inj same
    obtain ⟨written, rfl, _, bound⟩ := consumes_readEscape escape
    have backslash := (length_unitsOf '\\').1
    right
    rcases ih readRest with ⟨body, rfl, rfl, _⟩ | less
    · simp only [units_append, units_cons, List.length_append] at *
      omega
    · simp only [units_append, units_cons, List.length_append] at *
      omega
  | case6 c after notQuote notBreak notEscape ih =>
    obtain ⟨⟨values, behind⟩, readRest, same⟩ := Option.map_eq_some_iff.1 read
    obtain ⟨rfl, rfl⟩ := Prod.mk.inj same
    rcases ih readRest with ⟨body, rfl, rfl, plain⟩ | less
    · have first : isPlain quote c = true := by
        simp only [not_or] at notBreak
        simp [isPlain, notQuote, notBreak, notEscape]
      exact .inl ⟨c :: body, rfl, rfl, List.forall_mem_cons.2 ⟨first, plain⟩⟩
    · right
      simp only [units_cons, List.length_append] at *
      omega

theorem length_readString_le {quote : Char} {text rest : List Char} {value : List Nat}
    (read : readString quote text = some (value, rest)) :
    value.length + (units (quote :: rest)).length ≤ (units text).length := by
  rcases readString_cases read with ⟨body, rfl, rfl, _⟩ | less
  · rw [units_append, List.length_append]
  · omega

end JsxPages.Script
