import JsxPages.Html.RawText
import JsxPages.Html.Tag
import JsxPages.Html.TextPiece
/-!
# Reading the tokens of a document

`tokens` reads any text as a document: what opens no markup is text, and markup that the document
ends in closes there. Each step hands on a shorter text, so the reading ends for every input.
-/

namespace JsxPages.Html

/-- Whether what follows a `<` makes it markup. -/
def opensMarkup : List Char → Bool
  | '/' :: _ :: _ => true
  | c :: _ => c.isAlpha || c == '!' || c == '?'
  | [] => false

/-- The text up to the next markup, and that markup. -/
def scanText : List Char → List Char × List Char
  | [] => ([], [])
  | c :: rest =>
    if c = '<' ∧ opensMarkup rest then
      ([], c :: rest)
    else
      let (text, after) := scanText rest
      (c :: text, after)

/-- The body of a comment and what follows it. -/
def scanCommentBody : List Char → List Char × List Char
  | '-' :: '-' :: '>' :: rest => ([], rest)
  | '-' :: '-' :: '!' :: '>' :: rest => ([], rest)
  | ['-', '-', '!'] => ([], [])
  | ['-', '-'] => ([], [])
  | ['-'] => ([], [])
  | [] => ([], [])
  | c :: rest =>
    let (body, after) := scanCommentBody rest
    (c :: body, after)

/-- A comment whose `<!--` is read already; `>` and `->` close it at once. -/
def scanComment : List Char → List Char × List Char
  | '>' :: rest => ([], rest)
  | '-' :: '>' :: rest => ([], rest)
  | text => scanCommentBody text

/-- The text up to a `>` and what follows that. -/
def scanToAngle (text : List Char) : List Char × List Char :=
  (text.takeWhile (· != '>'), (text.dropWhile (· != '>')).drop 1)

def commentToken (scanned : List Char × List Char) : Option Token × List Char :=
  (some (.comment (String.ofList (plainText scanned.1))), scanned.2)

/-- A declaration whose `<!` is read already. What is neither a comment nor a document type is read
as a comment. -/
def readDeclaration (text : List Char) : Option Token × List Char :=
  match text with
  | '-' :: '-' :: rest => commentToken (scanComment rest)
  | _ =>
    if (text.take 7).map Char.toLower = "doctype".toList then
      (none, (scanToAngle text).2)
    else
      commentToken (scanToAngle text)

/-- A tag read from its name on, as the token that `token` makes of it. -/
def readTag (token : Tag → Token) (text : List Char) : Option Token × List Char :=
  match scanTag text with
  | none => (none, [])
  | some (tag, rest) => (some (token tag), rest)

/-- Markup whose `<` is read already. -/
def readMarkup (text : List Char) : Option Token × List Char :=
  match text with
  | '!' :: rest => readDeclaration rest
  | '?' :: _ => commentToken (scanToAngle text)
  | '/' :: '>' :: rest => (none, rest)
  | '/' :: c :: rest =>
    if c.isAlpha then
      readTag (fun tag => .endTag tag.name) (c :: rest)
    else
      commentToken (scanToAngle (c :: rest))
  | _ => readTag .startTag text

/-- The tokens of the content of a raw element. -/
def rawTokens (kind : RawKind) (content : List Char) : List Token :=
  if content.isEmpty then
    []
  else
    match kind with
    | .decoded => [.text (String.ofList (decode false (plainText content)))]
    | .script | .verbatim => [.text (String.ofList (plainText content))]

/-- The tokens behind a token: the raw content of a start tag, if it has such. -/
def readContent (token : Option Token) (text : List Char) : List Token × List Char :=
  match token with
  | some (.startTag tag) =>
    match RawKind.after tag with
    | some kind =>
      let (content, rest) := scanRaw tag.name.toList (.start kind) text
      (rawTokens kind content, rest)
    | none => ([], text)
  | _ => ([], text)

/-! ### Lengths -/

theorem length_scanText_le (text : List Char) : (scanText text).2.length ≤ text.length := by
  fun_induction scanText text with
  | case1 => simp
  | case2 => simp
  | case3 _ _ _ _ _ scanned ih =>
    rw [scanned] at ih
    exact Nat.le_succ_of_le ih

theorem length_scanCommentBody_le (text : List Char) :
    (scanCommentBody text).2.length ≤ text.length := by
  fun_induction scanCommentBody text with
  | case7 _ _ _ _ _ _ _ _ _ scanned ih =>
    rw [scanned] at ih
    exact Nat.le_succ_of_le ih
  | _ => simp <;> omega

theorem length_scanComment_le (text : List Char) : (scanComment text).2.length ≤ text.length := by
  unfold scanComment
  split
  · simp
  · simp only [List.length_cons]
    omega
  · exact length_scanCommentBody_le text

theorem length_scanToAngle_le (text : List Char) :
    (scanToAngle text).2.length ≤ text.length := by
  have := Text.length_dropWhile_le (· != '>') text
  simp only [scanToAngle, List.length_drop]
  omega

theorem length_readDeclaration_le (text : List Char) :
    (readDeclaration text).2.length ≤ text.length := by
  unfold readDeclaration
  split
  · rename_i rest
    have := length_scanComment_le rest
    simp only [commentToken, List.length_cons]
    omega
  · split <;> simpa [commentToken] using length_scanToAngle_le text

theorem length_readTag_le (token : Tag → Token) (text : List Char) :
    (readTag token text).2.length ≤ text.length := by
  unfold readTag
  split
  · simp
  · rename_i scanned
    exact length_scanTag_le scanned

theorem length_readMarkup_le (text : List Char) :
    (readMarkup text).2.length ≤ text.length := by
  unfold readMarkup
  split
  · exact Nat.le_succ_of_le (length_readDeclaration_le _)
  · exact length_scanToAngle_le _
  · simp only [List.length_cons]
    omega
  · split
    · exact Nat.le_succ_of_le (length_readTag_le _ _)
    · exact Nat.le_succ_of_le (length_scanToAngle_le _)
  · exact length_readTag_le _ _

theorem length_readContent_le (token : Option Token) (text : List Char) :
    (readContent token text).2.length ≤ text.length := by
  unfold readContent
  split
  · split
    · exact length_scanRaw_le _ _ _
    · simp
  · simp

/-- The tokens of a text outside raw content. -/
def tokensFrom : List Char → List Token
  | [] => []
  | c :: rest =>
    if c = '<' ∧ opensMarkup rest then
      let markup := readMarkup rest
      let content := readContent markup.1 markup.2
      have : content.2.length < (c :: rest).length := Nat.lt_succ_of_le
        (Nat.le_trans (length_readContent_le _ _) (length_readMarkup_le rest))
      markup.1.toList ++ content.1 ++ tokensFrom content.2
    else
      let scanned := scanText rest
      have : scanned.2.length < (c :: rest).length :=
        Nat.lt_succ_of_le (length_scanText_le rest)
      (pieces (c :: scanned.1)).map .text ++ tokensFrom scanned.2
termination_by text => text.length
decreasing_by all_goals exact this

/-- The tokens of a document, whose byte order mark counts as nothing. -/
def tokens (document : String) : List Token :=
  match document.toList with
  | '\uFEFF' :: rest => tokensFrom rest
  | text => tokensFrom text

end JsxPages.Html
