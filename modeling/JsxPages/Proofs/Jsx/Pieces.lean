import JsxPages.Proofs.Jsx.Kept
/-!
# What normalizing edits

A text is made of start tags, read whole where they stand, and of what stands between them, in
which no start tag begins (`Splits`). Every text can be taken apart in this way (`exists_splits`),
since a tag is read from its `<` to its `>` and what follows it is left as it was
(`StartTag.exists_source`). However that is done, normalizing writes each tag anew and copies
everything else (`Splits.normalizeFrom_eq`).
-/

namespace JsxPages.Jsx

/-! ### The source of a tag -/

theorem suffix_of_scanValue {text rest : List Char} {value : WrittenValue}
    (scanned : scanValue text = some (value, rest)) : rest <:+ text := by
  unfold scanValue at scanned
  split at scanned
  · cases scanned
  · rename_i c text
    split at scanned
    · obtain ⟨⟨inside, after⟩, cut, same⟩ := Option.map_eq_some_iff.1 scanned
      obtain ⟨_, rfl⟩ := Prod.mk.inj same
      rw [(Text.cutFirst_eq_some cut).1]
      exact (List.suffix_cons _ _).trans
        ((List.suffix_append _ _).trans (List.suffix_cons _ _))
    split at scanned
    · obtain ⟨length, _, same⟩ := Option.map_eq_some_iff.1 scanned
      obtain ⟨_, rfl⟩ := Prod.mk.inj same
      exact List.drop_suffix _ _
    split at scanned
    · cases scanned
    · obtain ⟨_, rfl⟩ := Prod.mk.inj (Option.some.inj scanned)
      exact List.drop_suffix _ _

theorem suffix_of_scanAssignment {text rest : List Char} {value : Option WrittenValue}
    (scanned : scanAssignment text = some (value, rest)) : rest <:+ text := by
  unfold scanAssignment at scanned
  split at scanned
  · rename_i after begins
    obtain ⟨⟨read, behind⟩, found, same⟩ := Option.map_eq_some_iff.1 scanned
    obtain ⟨_, rfl⟩ := Prod.mk.inj same
    have assigned : '=' :: after <:+ text := begins ▸ List.dropWhile_suffix Text.isBlank
    exact ((suffix_of_scanValue found).trans (List.dropWhile_suffix _)).trans
      ((List.suffix_cons _ _).trans assigned)
  · obtain ⟨_, rfl⟩ := Prod.mk.inj (Option.some.inj scanned)
    exact List.suffix_rfl

theorem suffix_of_scanAttributes {text : List Char} {tail : StartTagTail}
    (scanned : scanAttributes text = some tail) : '>' :: tail.rest <:+ text := by
  fun_induction scanAttributes text generalizing tail with
  | case1 => cases scanned
  | case2 text rest begins =>
    obtain rfl := Option.some.inj scanned
    exact begins ▸ List.dropWhile_suffix Text.isBlank
  | case3 text c rest begins _ slash =>
    obtain rfl := Option.some.inj scanned
    obtain ⟨behind, rfl⟩ := List.head?_eq_some_iff.1 slash.2
    have whole : c :: '>' :: behind <:+ text := begins ▸ List.dropWhile_suffix Text.isBlank
    exact (List.suffix_cons _ _).trans whole
  | case4 => cases scanned
  | case5 text c rest begins _ _ _ value after assigned _ ih =>
    obtain ⟨behind, later, rfl⟩ := Option.map_eq_some_iff.1 scanned
    have whole : c :: rest <:+ text := begins ▸ List.dropWhile_suffix Text.isBlank
    have name : after <:+ rest :=
      (suffix_of_scanAssignment assigned).trans (List.dropWhile_suffix inAttributeName)
    exact (ih later).trans (name.trans ((List.suffix_cons _ _).trans whole))
  | case6 => cases scanned

/-- A tag is read from a `<` to a `>`, and what follows is what was there. -/
theorem StartTag.exists_source {text rest : List Char} {tag : StartTag}
    (scanned : StartTag.scan text = some (tag, rest)) :
    ∃ inside, text = '<' :: (inside ++ '>' :: rest) := by
  unfold StartTag.scan at scanned
  split at scanned
  · split at scanned
    · rename_i c text _
      obtain ⟨tail, found, same⟩ := Option.map_eq_some_iff.1 scanned
      obtain ⟨_, rfl⟩ := Prod.mk.inj same
      obtain ⟨inside, whole⟩ := (suffix_of_scanAttributes found).trans
        ((List.dropWhile_suffix inTagName).trans (List.suffix_cons c text))
      exact ⟨inside, by rw [whole]⟩
    · cases scanned
  · cases scanned

/-! ### Pieces -/

/-- A piece of a text: a start tag with the text it is read from, or any other text. -/
inductive Piece where
  | plain (text : List Char)
  | tag (source : List Char) (tag : StartTag)

/-- A text is made of some pieces: of start tags that are read where they stand, from `<` to `>`,
and of texts in which none begins. -/
inductive Splits : List Char → List Piece → Prop where
  | nil : Splits [] []
  | plain {text rest : List Char} {pieces : List Piece}
      (free : ∀ before after, text = before ++ '<' :: after →
        StartTag.scan ('<' :: (after ++ rest)) = none)
      (later : Splits rest pieces) : Splits (text ++ rest) (.plain text :: pieces)
  | tag {inside rest : List Char} {tag : StartTag} {pieces : List Piece}
      (scanned : StartTag.scan ('<' :: (inside ++ '>' :: rest)) = some (tag, rest))
      (later : Splits rest pieces) :
      Splits ('<' :: (inside ++ '>' :: rest)) (.tag ('<' :: (inside ++ ['>'])) tag :: pieces)

/-- The text of a piece. -/
def Piece.source : Piece → List Char
  | .plain text => text
  | .tag source _ => source

/-- What normalizing writes for a piece. -/
def Piece.edited : Piece → List Char
  | .plain text => text
  | .tag _ read => read.edited.written.toList

theorem exists_splits (text : List Char) : ∃ pieces, Splits text pieces := by
  fun_induction normalizeFrom text with
  | case1 => exact ⟨[], .nil⟩
  | case2 c rest tag after scanned _ ih =>
    obtain ⟨pieces, later⟩ := ih
    obtain ⟨inside, whole⟩ := StartTag.exists_source scanned
    rw [whole] at scanned ⊢
    exact ⟨_, .tag scanned later⟩
  | case3 c rest unread ih =>
    obtain ⟨pieces, later⟩ := ih
    have free : ∀ before after, [c] = before ++ '<' :: after →
        StartTag.scan ('<' :: (after ++ rest)) = none := by
      intro before after one
      obtain ⟨rfl, same⟩ | ⟨_, impossible⟩ := List.append_eq_singleton_iff.1 one.symm
      · obtain ⟨rfl, rfl⟩ := List.cons.inj same
        exact unread
      · cases impossible
    exact ⟨_, .plain free later⟩

theorem normalizeFrom_plain {text rest : List Char}
    (free : ∀ before after, text = before ++ '<' :: after →
      StartTag.scan ('<' :: (after ++ rest)) = none) :
    normalizeFrom (text ++ rest) = text ++ normalizeFrom rest := by
  induction text with
  | nil => rfl
  | cons c text ih =>
    have none : StartTag.scan (c :: (text ++ rest)) = none := by
      by_cases opens : c = '<'
      · subst opens
        exact free [] text rfl
      · exact StartTag.scan_of_ne opens _
    rw [List.cons_append, normalizeFrom_of_none none, ih, List.cons_append]
    intro before after whole
    exact free (c :: before) after (by rw [whole, List.cons_append])

theorem Splits.source_eq {text : List Char} {pieces : List Piece} (splits : Splits text pieces) :
    text = pieces.flatMap Piece.source := by
  induction splits with
  | nil => rfl
  | plain _ _ ih => rw [List.flatMap_cons, ← ih, Piece.source]
  | tag _ _ ih =>
    rw [List.flatMap_cons, ← ih, Piece.source, List.cons_append, List.append_assoc,
      List.singleton_append]

theorem Splits.normalizeFrom_eq {text : List Char} {pieces : List Piece}
    (splits : Splits text pieces) : normalizeFrom text = pieces.flatMap Piece.edited := by
  induction splits with
  | nil => rw [normalizeFrom, List.flatMap_nil]
  | plain free _ ih => rw [normalizeFrom_plain free, ih, List.flatMap_cons, Piece.edited]
  | tag scanned _ ih =>
    rw [normalizeFrom_of_some scanned, StartTag.normalized_eq, ih, List.flatMap_cons]
    rfl

/-- **Normalizing edits start tags and nothing else.** Every text is made of start tags and texts
between them, and for all such pieces the normalized text is made of the same texts, as they are,
and in the place of each tag one with the same name, the same end and as many attributes in the same
order, each of them normalized. A text without start tags stays as it is. -/
theorem normalize_edits_tags (source : String) :
    (∃ pieces, Splits source.toList pieces) ∧
    (∀ pieces, Splits source.toList pieces →
      source.toList = pieces.flatMap Piece.source ∧
        (normalize source).toList = pieces.flatMap Piece.edited) ∧
    ((∀ place, place <:+ source.toList → StartTag.scan place = none) →
      normalize source = source) := by
  refine ⟨exists_splits _, fun pieces splits => ⟨splits.source_eq, ?_⟩, fun free => ?_⟩
  · rw [normalize, String.toList_ofList, splits.normalizeFrom_eq]
  · have kept : normalizeFrom (source.toList ++ []) = source.toList ++ normalizeFrom [] :=
      normalizeFrom_plain fun before after whole =>
        free _ ⟨before, by rw [List.append_nil, whole]⟩
    rw [List.append_nil, normalizeFrom, List.append_nil] at kept
    rw [normalize, kept, String.ofList_toList]

end JsxPages.Jsx
