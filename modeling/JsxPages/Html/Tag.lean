import JsxPages.Html.Character
import JsxPages.Html.Reference
import JsxPages.Html.Token
import JsxPages.Text.Split
/-!
# Reading a tag

`scanTag` reads a tag from its name to its `>`. A slash closes the tag only directly before the `>`
and is skipped elsewhere. Names are folded to lower case; of attributes with one name the first
counts. A tag that the document ends in is no tag. What follows a tag is shorter than what was read.
-/

namespace JsxPages.Html

def inTagName (c : Char) : Bool :=
  !isSpace c && c != '/' && c != '>'

/-- Whether a character, other than the first, belongs to the name of an attribute. -/
def inAttributeName (c : Char) : Bool :=
  inTagName c && c != '='

def inBareValue (c : Char) : Bool :=
  !isSpace c && c != '>'

def nameOf (written : List Char) : String :=
  String.ofList (written.map fun c => (showNul c).toLower)

/-- An attribute value with its character references read. -/
def valueOf (written : List Char) : String :=
  String.ofList (decode true (plainText written))

/-- A value between quotes, whose first quote is read already. -/
def scanQuoted (quote : Char) (text : List Char) : Option (List Char × List Char) :=
  match text.dropWhile (· != quote) with
  | [] => none
  | _ :: rest => some (text.takeWhile (· != quote), rest)

/-- The value behind an attribute name, empty where there is none. -/
def scanValue (text : List Char) : Option (List Char × List Char) :=
  match text.dropWhile isSpace with
  | '=' :: rest =>
    match rest.dropWhile isSpace with
    | '"' :: rest => scanQuoted '"' rest
    | '\'' :: rest => scanQuoted '\'' rest
    | rest => some (rest.takeWhile inBareValue, rest.dropWhile inBareValue)
  | rest => some ([], rest)

theorem length_scanQuoted_le {quote : Char} {text value rest : List Char}
    (h : scanQuoted quote text = some (value, rest)) : rest.length ≤ text.length := by
  unfold scanQuoted at h
  split at h
  · simp at h
  · rename_i dropped
    have shorter := Text.length_of_dropWhile_eq_cons dropped
    simp only [Option.some.injEq, Prod.mk.injEq] at h
    obtain ⟨_, rfl⟩ := h
    omega

theorem length_scanValue_le {text value rest : List Char}
    (h : scanValue text = some (value, rest)) : rest.length ≤ text.length := by
  unfold scanValue at h
  have spaces := Text.length_dropWhile_le isSpace text
  split at h
  · rename_i after dropped
    rw [dropped, List.length_cons] at spaces
    have more := Text.length_dropWhile_le isSpace after
    split at h
    · rename_i dropped'
      rw [dropped', List.length_cons] at more
      have := length_scanQuoted_le h
      omega
    · rename_i dropped'
      rw [dropped', List.length_cons] at more
      have := length_scanQuoted_le h
      omega
    · have := Text.length_dropWhile_le inBareValue (after.dropWhile isSpace)
      simp only [Option.some.injEq, Prod.mk.injEq] at h
      rw [← h.2]
      omega
  · simp only [Option.some.injEq, Prod.mk.injEq] at h
    rw [← h.2]
    exact spaces

/-- Adds an attribute unless its name is taken. -/
def addAttribute (found : List (String × String)) (name value : String) : List (String × String) :=
  if found.any (·.1 == name) then found else found ++ [(name, value)]

/-- What stands between the name of a tag and its `>`. -/
structure TagTail where
  attributes : List (String × String)
  selfClosing : Bool
  rest : List Char

/-- Reads attributes up to the end of the tag. -/
def scanAttributes (found : List (String × String)) : List Char → Option TagTail
  | [] => none
  | c :: rest =>
    if c = '>' then
      some ⟨found, false, rest⟩
    else if c = '/' ∧ rest.head? = some '>' then
      some ⟨found, true, rest.tail⟩
    else if isSpace c ∨ c = '/' then
      scanAttributes found rest
    else
      match h : scanValue (rest.dropWhile inAttributeName) with
      | none => none
      | some (value, after) =>
        have : after.length < rest.length + 1 := Nat.lt_succ_of_le
          (Nat.le_trans (length_scanValue_le h) (Text.length_dropWhile_le inAttributeName rest))
        scanAttributes
          (addAttribute found (nameOf (c :: rest.takeWhile inAttributeName)) (valueOf value)) after
termination_by text => text.length

/-- A tag and what follows it, read from its name on. -/
def scanTag (text : List Char) : Option (Tag × List Char) :=
  (scanAttributes [] (text.dropWhile inTagName)).map fun tail =>
    (⟨nameOf (text.takeWhile inTagName), tail.attributes, tail.selfClosing⟩, tail.rest)

theorem length_scanAttributes_le {found : List (String × String)} {text : List Char}
    {tail : TagTail} (h : scanAttributes found text = some tail) :
    tail.rest.length ≤ text.length := by
  fun_induction scanAttributes found text with
  | case1 => simp at h
  | case2 =>
    cases h
    simp
  | case3 _ _ rest =>
    cases h
    simp only [List.length_tail, List.length_cons]
    omega
  | case4 _ _ _ _ _ _ ih =>
    have := ih h
    simp only [List.length_cons]
    omega
  | case5 => simp at h
  | case6 _ _ _ _ _ _ _ _ _ _ ih =>
    have := ih h
    simp only [List.length_cons]
    omega

theorem length_scanTag_le {text rest : List Char} {tag : Tag}
    (h : scanTag text = some (tag, rest)) : rest.length ≤ text.length := by
  simp only [scanTag, Option.map_eq_some_iff, Prod.mk.injEq] at h
  obtain ⟨tail, scanned, _, rfl⟩ := h
  exact Nat.le_trans (length_scanAttributes_le scanned) (Text.length_dropWhile_le _ _)

end JsxPages.Html
