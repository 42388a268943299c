import JsxPages.Proofs.Style.Upsert
import JsxPages.Proofs.Text.Cuts
import JsxPages.Proofs.Text.Words
/-!
# Declarations of a style

What a declaration is read from, said once for each of the two kinds (`readDeclaration?_cases`,
`readRegular?_eq_some`). Whatever is read has a usable name and a value, and no white space around
the value: it is trimmed when it is cut out, and once more when the mark that gives it precedence is
dropped.
-/

namespace JsxPages.Style

/-! ### Values -/

theorem trim_trim (text : String) : Text.trim (Text.trim text) = Text.trim text := by
  rw [Text.trim, Text.trim, String.toList_ofList, Text.trimWhere_trimWhere fun c blank => blank]

theorem trim_dropImportant {value : String} (trimmed : Text.trim value = value) :
    Text.trim (dropImportant value) = dropImportant value := by
  have solid : ∀ c ∈ value.toList.head?, Text.isBlank c = false := by
    intro c head
    rw [← trimmed, Text.trim, String.toList_ofList] at head
    exact Text.of_mem_head?_trimWhere head
  unfold dropImportant
  split
  · rename_i before _
    rw [Text.trim, Text.trimEnd, String.toList_ofList, String.toList_ofList]
    congr 1
    apply Text.trimWhere_trimEndWhere
    intro c head
    exact solid c (Text.mem_head?_of_begins (List.take_prefix _ _) head)
  · exact trimmed

/-! ### Reading -/

theorem readRegular?_eq_some {property value : String} {declaration : Declaration}
    (read : readRegular? property value = some declaration) :
    declaration = .regular (fieldName (Text.lower property)) (dropImportant value) ∧
      Name.isIdentifier (fieldName (Text.lower property)) = true ∧ dropImportant value ≠ "" := by
  simp only [readRegular?] at read
  split_ifs at read with _ unusable
  obtain ⟨some, named⟩ := not_or.1 unusable
  refine ⟨(Option.some.inj read).symm, by simpa using named, ?_⟩
  simpa [String.isEmpty_iff] using some

/-- A declaration has a name in front of its first colon and a value behind it. -/
theorem readDeclaration?_cases {written : List Char} {declaration : Declaration}
    (read : readDeclaration? written = some declaration) :
    ∃ before after, Text.cutFirst ':' written = some (before, after) ∧
      Text.trim (String.ofList after) ≠ "" ∧
      (Name.startsWith "--" (Text.trim (String.ofList before)) = true ∧
          Text.trim (String.ofList before) ≠ "--" ∧
          declaration =
            .custom (Text.trim (String.ofList before)) (Text.trim (String.ofList after)) ∨
        readRegular? (Text.trim (String.ofList before)) (Text.trim (String.ofList after)) =
          some declaration) := by
  unfold readDeclaration? at read
  obtain ⟨⟨before, after⟩, cut, read⟩ := Option.bind_eq_some_iff.1 read
  dsimp only at read
  split_ifs at read with empty isCustom bare
  · refine ⟨before, after, cut, ?_, .inl ⟨isCustom, bare, (Option.some.inj read).symm⟩⟩
    simpa [String.isEmpty_iff] using (not_or.1 empty).2
  · refine ⟨before, after, cut, ?_, .inr read⟩
    simpa [String.isEmpty_iff] using (not_or.1 empty).2

/-- What a declaration has to be: a name that can be written where it goes, and a value. -/
def Declaration.IsUsable : Declaration → Prop
  | .regular property value =>
    Name.isIdentifier property = true ∧ value ≠ "" ∧ Text.trim value = value
  | .custom name value =>
    Name.startsWith "--" name = true ∧ 2 < name.length ∧ value ≠ "" ∧ Text.trim value = value

theorem length_of_startsWith {start name : String} (begins : Name.startsWith start name = true)
    (longer : name ≠ start) : start.length < name.length := by
  obtain ⟨rest, whole⟩ := List.isPrefixOf_iff_prefix.1 begins
  have some : rest ≠ [] := by
    rintro rfl
    rw [List.append_nil] at whole
    exact longer (String.toList_inj.1 whole.symm)
  have positive := List.length_pos_iff.2 some
  rw [← String.length_toList, ← String.length_toList, ← whole, List.length_append]
  omega

theorem isUsable_of_readDeclaration? {written : List Char} {declaration : Declaration}
    (read : readDeclaration? written = some declaration) : declaration.IsUsable := by
  obtain ⟨before, after, _, valued, ⟨isCustom, longer, rfl⟩ | regular⟩ :=
    readDeclaration?_cases read
  · exact ⟨isCustom, length_of_startsWith isCustom longer, valued, trim_trim _⟩
  · obtain ⟨rfl, named, valued⟩ := readRegular?_eq_some regular
    exact ⟨named, valued, trim_dropImportant (trim_trim _)⟩

/-! ### Styles -/

/-- All that a style has was declared. -/
structure DeclaredIn (style : Style) (declared : List Declaration) : Prop where
  properties : ∀ field ∈ style.properties, .regular field.1 field.2 ∈ declared
  customProperties : ∀ entry ∈ style.customProperties, .custom entry.1 entry.2 ∈ declared

theorem DeclaredIn.declare {style : Style} {declared : List Declaration}
    (earlier : style.DeclaredIn declared) {declaration : Declaration}
    (mem : declaration ∈ declared) : (style.declare declaration).DeclaredIn declared := by
  cases declaration with
  | regular name value =>
    refine ⟨fun field inStyle => ?_, earlier.customProperties⟩
    rcases mem_upsert inStyle with rfl | known
    · exact mem
    · exact earlier.properties field known
  | custom name value =>
    refine ⟨earlier.properties, fun entry inStyle => ?_⟩
    rcases mem_upsert inStyle with rfl | known
    · exact mem
    · exact earlier.customProperties entry known

theorem declaredIn_ofText (css : String) : (ofText css).DeclaredIn (declarations css) := by
  suffices ∀ declared ⊆ declarations css, ∀ style : Style, style.DeclaredIn (declarations css) →
      (declared.foldl declare style).DeclaredIn (declarations css) by
    exact this _ (List.Subset.refl _) {} ⟨nofun, nofun⟩
  intro declared
  induction declared with
  | nil => exact fun _ _ earlier => earlier
  | cons declaration declared ih =>
    intro part style earlier
    obtain ⟨first, others⟩ := List.cons_subset.1 part
    exact ih others _ (earlier.declare first)

end JsxPages.Style
