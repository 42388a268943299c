import JsxPages.Proofs.Style.Declaration
/-!
# Styles one behind the other

A semicolon cuts a style where no quote and no parenthesis is open, so behind a style that leaves
none open another one may be written: the declarations of the whole are those of both
(`declarations_append`). And it does not matter that the second style has already been made of its
declarations, with the repeated ones taken together: setting what it has is setting all that it
declares (`merge_foldl_declare`). So the whole is the first style with what the second one has set
on top of it (`ofText_append`).
-/

namespace JsxPages.Style

/-! ### Cutting -/

/-- Where a reader stands behind a text. -/
def Nesting.behind (nesting : Nesting) (text : List Char) : Nesting :=
  text.foldl Nesting.next nesting

theorem Nesting.eq_of_isOutside {nesting : Nesting} (outside : nesting.isOutside = true) :
    nesting = {} := by
  obtain ⟨quote, depth⟩ := nesting
  simpa [isOutside] using outside

theorem splitDeclarations_ne_nil (nesting : Nesting) (text : List Char) :
    splitDeclarations nesting text ≠ [] := by
  cases text with
  | nil => exact List.cons_ne_nil _ _
  | cons c rest =>
    rw [splitDeclarations]
    split
    · exact List.cons_ne_nil _ _
    · cases splitDeclarations (nesting.next c) rest <;> exact List.cons_ne_nil _ _

theorem consFirst_append (c : Char) {parts : List (List Char)} (some : parts ≠ [])
    (others : List (List Char)) :
    Text.consFirst c (parts ++ others) = Text.consFirst c parts ++ others := by
  cases parts with
  | nil => exact absurd rfl some
  | cons part parts => rfl

theorem splitDeclarations_append {nesting : Nesting} {first : List Char}
    (ends : (nesting.behind first).isOutside = true) (second : List Char) :
    splitDeclarations nesting (first ++ ';' :: second) =
      splitDeclarations nesting first ++ splitDeclarations {} second := by
  induction first generalizing nesting with
  | nil =>
    have outside : nesting.isOutside = true := ends
    show splitDeclarations nesting (';' :: second) = [] :: splitDeclarations {} second
    rw [splitDeclarations, if_pos ⟨rfl, outside⟩, Nesting.eq_of_isOutside outside]
  | cons c first ih =>
    have behind := @ih (nesting.next c) ends
    rw [List.cons_append, splitDeclarations, splitDeclarations]
    by_cases cut : c = ';' ∧ nesting.isOutside = true
    · -- the semicolon that cuts changes nothing for what is behind it
      have stays : nesting.next c = nesting := by
        rw [cut.1, Nesting.eq_of_isOutside cut.2]
        rfl
      rw [stays] at behind
      rw [if_pos cut, if_pos cut, behind]
      rfl
    · rw [if_neg cut, if_neg cut, behind, consFirst_append c (splitDeclarations_ne_nil _ _)]

theorem declarations_append {first : String}
    (ends : (Nesting.behind {} first.toList).isOutside = true) (second : String) :
    declarations (first ++ ";" ++ second) = declarations first ++ declarations second := by
  have whole : (first ++ ";" ++ second).toList = first.toList ++ ';' :: second.toList := by simp
  rw [declarations, whole, splitDeclarations_append ends, List.filterMap_append]
  rfl

/-! ### Merging -/

/-- No key stands twice. -/
structure Distinct (style : Style) : Prop where
  properties : (keys style.properties).Nodup
  customProperties : (keys style.customProperties).Nodup

theorem Distinct.declare {style : Style} (distinct : style.Distinct) (declaration : Declaration) :
    (style.declare declaration).Distinct := by
  cases declaration with
  | regular name value =>
    exact ⟨nodup_keys_upsert distinct.properties name value, distinct.customProperties⟩
  | custom name value =>
    exact ⟨distinct.properties, nodup_keys_upsert distinct.customProperties name value⟩

theorem Distinct.foldl_declare {style : Style} (distinct : style.Distinct)
    (declared : List Declaration) : (declared.foldl Style.declare style).Distinct := by
  induction declared generalizing style with
  | nil => exact distinct
  | cons declaration declared ih => exact ih (distinct.declare declaration)

theorem distinct_empty : Distinct {} :=
  ⟨List.nodup_nil, List.nodup_nil⟩

theorem distinct_ofText (css : String) : (ofText css).Distinct :=
  distinct_empty.foldl_declare (declarations css)

/-- A style with what another one has set on top of it. -/
def merge (style later : Style) : Style where
  properties := upsertAll style.properties later.properties
  customProperties := upsertAll style.customProperties later.customProperties

theorem merge_declare (style : Style) {later : Style} (distinct : later.Distinct)
    (declaration : Declaration) :
    style.merge (later.declare declaration) = (style.merge later).declare declaration := by
  cases declaration with
  | regular name value =>
    simp only [merge, declare, upsertAll_upsert _ distinct.properties]
  | custom name value =>
    simp only [merge, declare, upsertAll_upsert _ distinct.customProperties]

/-- Declaring on top of a style is declaring first and merging then. -/
theorem merge_foldl_declare (style : Style) {later : Style} (distinct : later.Distinct)
    (declared : List Declaration) :
    style.merge (declared.foldl declare later) = declared.foldl declare (style.merge later) := by
  induction declared generalizing later with
  | nil => rfl
  | cons declaration declared ih =>
    rw [List.foldl_cons, List.foldl_cons, ih (distinct.declare declaration),
      merge_declare style distinct]

theorem ofText_append {first : String}
    (ends : (Nesting.behind {} first.toList).isOutside = true) (second : String) :
    ofText (first ++ ";" ++ second) = (ofText first).merge (ofText second) := by
  have alone : (ofText first).merge {} = ofText first := rfl
  rw [ofText, declarations_append ends, List.foldl_append, ofText.eq_1 second,
    merge_foldl_declare _ distinct_empty, alone]
  rfl

/-! ### Results -/

/-- What holds of every style that is read. -/
structure IsProper (style : Style) : Prop where
  distinct : style.Distinct
  properties : ∀ field ∈ style.properties, (Declaration.regular field.1 field.2).IsUsable
  customProperties : ∀ entry ∈ style.customProperties, (Declaration.custom entry.1 entry.2).IsUsable

theorem isProper_ofText (css : String) : (ofText css).IsProper := by
  have usable : ∀ declaration ∈ declarations css, declaration.IsUsable := by
    intro declaration declared
    obtain ⟨written, _, read⟩ := List.mem_filterMap.1 declared
    exact isUsable_of_readDeclaration? read
  constructor
  · exact distinct_ofText css
  · intro field mem
    exact usable _ ((declaredIn_ofText css).properties field mem)
  · intro entry mem
    exact usable _ ((declaredIn_ofText css).customProperties entry mem)

/-- **Styles compose.** A style behind another one that leaves no quote and no parenthesis open is
set on top of it, property by property and custom property by custom property: a repeated key takes
the later value in the earlier place, and new keys come behind. Hence no style has a key twice; its
properties are named by identifiers, its custom properties by `--` and more, and all values are
there and have no white space around them. -/
theorem ofText_composes :
    (∀ first second : String, (Nesting.behind {} first.toList).isOutside = true →
      let style := ofText (first ++ ";" ++ second)
      style = (ofText first).merge (ofText second) ∧
      style.properties = override (ofText first).properties (ofText second).properties ∧
      style.customProperties =
        override (ofText first).customProperties (ofText second).customProperties) ∧
    ∀ css, (ofText css).IsProper := by
  refine ⟨fun first second ends => ?_, isProper_ofText⟩
  intro style
  have merged : style = (ofText first).merge (ofText second) := ofText_append ends second
  have distinct := distinct_ofText first
  have apart := distinct_ofText second
  refine ⟨merged, ?_, ?_⟩
  · rw [merged]
    exact upsertAll_eq_override distinct.properties apart.properties
  · rw [merged]
    exact upsertAll_eq_override distinct.customProperties apart.customProperties

/-- A semicolon in an address, a value with a mark, and a custom property that comes twice. -/
theorem ofText_composes_background :
    let first := "background: url(a;b) !important; --x: 1"
    let second := "Background: none; color: red; --x: ';'"
    (Nesting.behind {} first.toList).isOutside = true ∧
      (ofText (first ++ ";" ++ second)).properties = [("background", "none"), ("color", "red")] ∧
      (ofText (first ++ ";" ++ second)).customProperties = [("--x", "';'")] ∧
      (ofText second).IsProper := by
  intro first second
  have ends : (Nesting.behind {} first.toList).isOutside = true := by decide
  obtain ⟨_, properties, customProperties⟩ := ofText_composes.1 first second ends
  have before : ofText first = ⟨[("background", "url(a;b)")], [("--x", "1")]⟩ := by decide
  have after : ofText second = ⟨[("background", "none"), ("color", "red")], [("--x", "';'")]⟩ := by
    decide
  rw [before, after] at properties customProperties
  exact ⟨ends, properties, customProperties, ofText_composes.2 second⟩

end JsxPages.Style
