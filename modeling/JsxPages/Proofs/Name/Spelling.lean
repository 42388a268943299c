import JsxPages.Proofs.Attribute.Names
import JsxPages.Proofs.Name.Case
/-!
# How property names are spelled

Five rules give a name its property, and `property_cases` says which of them applies. Hyphens stay
in names that keep theirs. Of the other rules only one lets a hyphen through: what stands in front of
a colon is not written in camel case (`hyphen_mem_property_iff`). Of some names with hyphens nothing
is left (`property_eq_empty_iff`).
-/

namespace JsxPages.Name

/-- The rule by which a name gets its property. -/
inductive Spelling (name : String) : Prop where
  | own {own : String} (known : ownProperty? name = some own) (spelled : property name = own)
  | kept (unknown : ownProperty? name = none) (keeps : keepsHyphens name = true)
      (spelled : property name = name)
  | spaced {space rest : List Char} (unknown : ownProperty? name = none)
      (loses : keepsHyphens name = false) (cut : name.toList = space ++ ':' :: rest)
      (first : ':' ∉ space) (spelled : property name = namespaced name)
  | hyphened (unknown : ownProperty? name = none) (loses : keepsHyphens name = false)
      (noColon : ':' ∉ name.toList) (hyphen : '-' ∈ name.toList)
      (spelled : property name = camelCase name)
  | bare (unknown : ownProperty? name = none) (noColon : ':' ∉ name.toList)
      (noHyphen : '-' ∉ name.toList) (spelled : property name = name)

theorem property_cases (name : String) : Spelling name := by
  cases known : ownProperty? name with
  | some own => exact .own known (by rw [property, known])
  | none =>
    cases keeps : keepsHyphens name with
    | true => exact .kept known keeps (by simp [property, known, keeps])
    | false =>
      by_cases colon : ':' ∈ name.toList
      · obtain ⟨space, rest, cut, first⟩ := List.eq_append_cons_of_mem colon
        exact .spaced known keeps cut first (by simp [property, known, keeps, colon])
      · by_cases hyphen : '-' ∈ name.toList
        · exact .hyphened known keeps colon hyphen
            (by simp [property, known, keeps, colon, hyphen])
        · exact .bare known colon hyphen (by simp [property, known, keeps, colon, hyphen])

theorem namespaced_cases {name : String} {space rest : List Char}
    (cut : name.toList = space ++ ':' :: rest) (first : ':' ∉ space) :
    (space = [] ∨ rest = []) ∧ namespaced name = "" ∨
      (space ≠ [] ∧ rest ≠ []) ∧ (namespaced name).toList = space.map Char.toLower ++
        (Text.capitalize (camelCase (String.ofList rest))).toList := by
  have found : Text.cutFirst ':' name.toList = some (space, rest) := by
    rw [cut]
    exact Text.cutFirst_append first rest
  rw [namespaced, found]
  dsimp only
  split
  · rename_i sides
    exact .inl ⟨by simpa using sides, rfl⟩
  · rename_i sides
    refine .inr ⟨by simpa using sides, ?_⟩
    rw [String.toList_append, Text.lower, String.toList_ofList, String.toList_ofList]

theorem namespaced_eq_empty_iff {name : String} {space rest : List Char}
    (cut : name.toList = space ++ ':' :: rest) (first : ':' ∉ space) :
    namespaced name = "" ↔ space = [] ∨ rest = [] := by
  rcases namespaced_cases cut first with ⟨sides, empty⟩ | ⟨⟨some, behind⟩, whole⟩
  · exact iff_of_true empty sides
  · refine iff_of_false (fun empty => ?_) (not_or.2 ⟨some, behind⟩)
    rw [empty] at whole
    exact some (List.map_eq_nil_iff.1 (List.append_eq_nil_iff.1 whole.symm).1)

/-! ### Parts of a name -/

theorem toLower_of_lower {name : String} (lower : Text.lower name = name) {c : Char}
    (mem : c ∈ name.toList) : c.toLower = c := by
  have same := congrArg String.toList lower
  rw [Text.lower, String.toList_ofList] at same
  exact List.map_inj_left.1 (same.trans (List.map_id _).symm) c mem

theorem isUpper_of_lower {name : String} (lower : Text.lower name = name) {c : Char}
    (mem : c ∈ name.toList) : c.isUpper = false := by
  rw [← toLower_of_lower lower mem]
  exact Text.isUpper_toLower c

/-- In a name in lower case every part is. -/
theorem map_toLower_of_cut {name : String} (lower : Text.lower name = name) {before after : List Char}
    (cut : name.toList = before ++ after) : before.map Char.toLower = before := by
  have same : ∀ c ∈ before, c.toLower = id c :=
    fun c mem => toLower_of_lower lower (by simp [cut, mem])
  rw [List.map_congr_left same, List.map_id]

theorem exists_solid (text : List Char) :
    (∀ c ∈ text, isSeparator c = true) ∨ ∃ before first after, text = before ++ first :: after ∧
      (∀ c ∈ before, isSeparator c = true) ∧ isSeparator first = false := by
  have whole := List.takeWhile_append_dropWhile (p := isSeparator) (l := text)
  cases behind : text.dropWhile isSeparator with
  | nil => exact .inl (List.dropWhile_eq_nil_iff.1 behind)
  | cons first after =>
    have solid := List.head?_dropWhile_not isSeparator text
    rw [behind] at whole solid
    exact .inr ⟨_, first, after, whole.symm, fun c mem => List.mem_takeWhile_imp mem, solid⟩

theorem camelCase_of_separators {name : String} (all : ∀ c ∈ name.toList, isSeparator c = true) :
    camelCase name = "" := by
  rw [camelCase, List.dropWhile_eq_nil_iff.2 all]
  rfl

/-- Camel case begins with what stands behind the separators at the beginning. -/
theorem camelCase_of_begins {name : String} {before after : List Char} {first : Char}
    (cut : name.toList = before ++ first :: after) (begins : ∀ c ∈ before, isSeparator c = true)
    (solid : isSeparator first = false) :
    (camelCase name).toList = first :: camelTail false after := by
  rw [camelCase, String.toList_ofList, cut, List.dropWhile_append_of_pos begins,
    List.dropWhile_cons_of_neg (by simp [solid]), camelTail, solid]
  rfl

theorem capitalize_of_begins {name : String} {before after : List Char} {first : Char}
    (cut : name.toList = before ++ first :: after) (begins : ∀ c ∈ before, isSeparator c = true)
    (solid : isSeparator first = false) :
    (Text.capitalize (camelCase name)).toList = Text.upper first ++ camelTail false after := by
  rw [Text.capitalize, camelCase_of_begins cut begins solid]
  exact String.toList_ofList

/-- Where a text is cut first is told by the text. -/
theorem cut_inj {c : Char} {before other after another : List Char} (first : c ∉ before)
    (alsoFirst : c ∉ other) (same : before ++ c :: after = other ++ c :: another) :
    before = other ∧ after = another := by
  have cut := Text.cutFirst_append first after
  rw [same, Text.cutFirst_append alsoFirst] at cut
  obtain ⟨rfl, rfl⟩ := Prod.mk.inj (Option.some.inj cut)
  exact ⟨rfl, rfl⟩

/-! ### Names without a spelling -/

/-- Nothing but hyphens and underscores, or nothing on one side of the first colon. -/
def IsOneSided (text : List Char) : Prop :=
  (∀ c ∈ text, c = '-' ∨ c = '_') ∨ text.head? = some ':' ∨ text.dropWhile (· != ':') = [':']

-- the characters of the text are looked through, not all there are
instance (text : List Char) : Decidable (IsOneSided text) :=
  haveI := List.decidableBAll (fun c => c = '-' ∨ c = '_') text
  inferInstanceAs (Decidable (_ ∨ _ ∨ _))

/-- A name with hyphens of which nothing is left in a property. -/
structure IsUnspelled (name : String) : Prop where
  hyphen : '-' ∈ name.toList
  loses : keepsHyphens name = false
  oneSided : IsOneSided name.toList

instance (name : String) : Decidable (IsUnspelled name) :=
  decidable_of_iff
    ('-' ∈ name.toList ∧ keepsHyphens name = false ∧ IsOneSided name.toList)
    ⟨fun ⟨hyphen, loses, oneSided⟩ => ⟨hyphen, loses, oneSided⟩,
      fun unspelled => ⟨unspelled.hyphen, unspelled.loses, unspelled.oneSided⟩⟩

theorem isOneSided_of_colon {space rest : List Char} (first : ':' ∉ space) :
    IsOneSided (space ++ ':' :: rest) ↔ space = [] ∨ rest = [] := by
  have behind : (space ++ ':' :: rest).dropWhile (· != ':') = ':' :: rest := by
    rw [List.dropWhile_append_of_pos (by simpa using fun c mem => ne_of_mem_of_not_mem mem first)]
    rfl
  have mixed : ¬ ∀ c ∈ space ++ ':' :: rest, c = '-' ∨ c = '_' :=
    fun all => absurd (all ':' (by simp)) (by decide)
  rw [IsOneSided, behind, or_iff_right mixed, List.cons_inj_right]
  refine or_congr_left ⟨fun begins => ?_, fun empty => by rw [empty]; rfl⟩
  cases space with
  | nil => rfl
  | cons c space =>
    obtain rfl := Option.some.inj begins
    exact absurd List.mem_cons_self first

theorem camelCase_eq_empty_iff {name : String} :
    camelCase name = "" ↔ ∀ c ∈ name.toList, isSeparator c = true := by
  rcases exists_solid name.toList with all | ⟨before, first, after, cut, begins, solid⟩
  · exact iff_of_true (camelCase_of_separators all) all
  · refine iff_of_false (fun empty => ?_) fun all => ?_
    · have spelled := camelCase_of_begins cut begins solid
      rw [empty] at spelled
      cases spelled
    · rw [all first (by simp [cut])] at solid
      cases solid

theorem isOneSided_of_noColon {text : List Char} (noColon : ':' ∉ text) :
    IsOneSided text ↔ ∀ c ∈ text, isSeparator c = true := by
  constructor
  · rintro (all | begins | ends)
    · intro c mem
      rcases all c mem with rfl | rfl <;> rfl
    · exact absurd (List.mem_of_mem_head? begins) noColon
    · have behind : ':' ∈ text.dropWhile (· != ':') := by
        rw [ends]
        exact List.mem_cons_self
      exact absurd ((List.dropWhile_suffix _).subset behind) noColon
  · intro all
    refine .inl fun c mem => ?_
    have separates := all c mem
    simp only [isSeparator, Bool.or_eq_true, beq_iff_eq] at separates
    rcases separates with (hyphen | rfl) | underscore
    · exact .inl hyphen
    · exact absurd mem noColon
    · exact .inr underscore

theorem not_isUnspelled_of_ownProperty? {name own : String} (known : ownProperty? name = some own) :
    ¬ IsUnspelled name := by
  have tables : ∀ entry ∈ htmlProperties ++ svgProperties,
      entry.1.toList.head?.any Char.isAlpha = true ∧
        entry.1.toList.getLast?.any Char.isAlpha = true := by
    decide +kernel
  obtain ⟨letter, letterBehind⟩ := tables (name, own) (mem_of_ownProperty? known)
  rintro ⟨hyphen, _, all | begins | ends⟩
  · obtain ⟨first, rest, spelled⟩ := List.exists_cons_of_ne_nil (List.ne_nil_of_mem hyphen)
    rw [spelled] at letter all
    rcases all first List.mem_cons_self with rfl | rfl <;> cases letter
  · rw [begins] at letter
    cases letter
  · have whole := List.takeWhile_append_dropWhile (p := (· != ':')) (l := name.toList)
    rw [ends] at whole
    rw [← whole, List.getLast?_concat] at letterBehind
    cases letterBehind

theorem isProperty_empty : isProperty "" = false := by
  decide

/-- **Nothing is left of a name with hyphens** if it has no spelling. -/
theorem property_eq_empty_iff {name : String} (hyphen : '-' ∈ name.toList) :
    property name = "" ↔ IsUnspelled name := by
  have some : name ≠ "" := by
    rintro rfl
    cases hyphen
  cases property_cases name with
  | own known spelled =>
    refine iff_of_false (fun empty => ?_) (not_isUnspelled_of_ownProperty? known)
    have usable := (isTabled_of_ownProperty? known).property
    rw [← spelled, empty, isProperty_empty] at usable
    cases usable
  | kept _ keeps spelled =>
    rw [spelled]
    refine iff_of_false some fun unspelled => ?_
    rw [unspelled.loses] at keeps
    cases keeps
  | spaced _ loses cut first spelled =>
    rw [spelled, namespaced_eq_empty_iff cut first, ← isOneSided_of_colon first, ← cut]
    exact ⟨fun oneSided => ⟨hyphen, loses, oneSided⟩, IsUnspelled.oneSided⟩
  | hyphened _ loses noColon _ spelled =>
    rw [spelled, camelCase_eq_empty_iff, ← isOneSided_of_noColon noColon]
    exact ⟨fun oneSided => ⟨hyphen, loses, oneSided⟩, IsUnspelled.oneSided⟩
  | bare _ _ noHyphen => exact absurd hyphen noHyphen

/-! ### Hyphens -/

/-- A name in no table with a hyphen in front of a colon. -/
def HasHyphenInFront (name : String) : Prop :=
  ownProperty? name = none ∧
    ∃ space rest, name.toList = space ++ ':' :: rest ∧ ':' ∉ space ∧ '-' ∈ space

theorem isProperty_iff {name : String} : isProperty name = true ↔
    ∃ first rest, name.toList = first :: rest ∧ isIdentifierStart first = true ∧
      ∀ c ∈ rest, (isIdentifierChar c || c == '-') = true := by
  rw [isProperty]
  cases name.toList with
  | nil => simp
  | cons first rest => simp [List.all_eq_true]

theorem colon_notMem_of_isProperty {name : String} (usable : isProperty name = true) :
    ':' ∉ name.toList := by
  obtain ⟨first, rest, spelled, start, others⟩ := isProperty_iff.1 usable
  rw [spelled]
  intro colon
  rcases List.mem_cons.1 colon with rfl | later
  · revert start
    decide
  · have inName := others ':' later
    revert inName
    decide

theorem hyphen_notMem_camelCase (name : String) : '-' ∉ (camelCase name).toList := by
  intro mem
  have solid := isSeparator_camelCase name '-' mem
  revert solid
  decide

theorem hyphen_notMem_capitalize (text : List Char) :
    '-' ∉ (Text.capitalize (camelCase (String.ofList text))).toList := by
  intro mem
  have solid := isSeparator_capitalize (isSeparator_camelCase _) '-' mem
  revert solid
  decide

/-- What begins a text up to the first occurrence of a character begins every part with that
character. -/
theorem isPrefix_of_mem {c : Char} {start before after : List Char} (free : c ∉ start)
    (mem : c ∈ before) (begins : start ++ [c] <+: before ++ after) : start ++ [c] <+: before := by
  obtain ⟨other, rest, cut, first⟩ := List.eq_append_cons_of_mem mem
  obtain ⟨more, whole⟩ := begins
  have same : start ++ c :: more = other ++ c :: (rest ++ after) := by
    rw [cut] at whole
    simpa using whole
  obtain ⟨rfl, _⟩ := cut_inj free first same
  exact ⟨rest, by rw [cut]; simp⟩

theorem keepsHyphens_iff {name : String} : keepsHyphens name = true ↔
    "data".toList ++ ['-'] <+: name.toList ∨ "aria".toList ++ ['-'] <+: name.toList := by
  rw [keepsHyphens, Bool.or_eq_true, startsWith, startsWith, List.isPrefixOf_iff_prefix,
    List.isPrefixOf_iff_prefix]
  exact Iff.rfl

/-- **A hyphen stays in the names that keep theirs and in front of a colon**, nowhere else. -/
theorem hyphen_mem_property_iff {name : String} (lower : Text.lower name = name)
    (usable : isProperty (property name) = true) :
    '-' ∈ (property name).toList ∧ keepsHyphens (property name) = false ↔
      HasHyphenInFront name := by
  cases property_cases name with
  | own known spelled =>
    rw [spelled]
    have noHyphen := (isTabled_of_ownProperty? known).noHyphen
    refine iff_of_false (fun stays => ?_) (fun front => ?_)
    · simp [stays.1] at noHyphen
    · rw [front.1] at known
      cases known
  | kept unknown keeps spelled =>
    rw [spelled] at usable ⊢
    refine iff_of_false (fun stays => ?_) (fun front => ?_)
    · rw [keeps] at stays
      cases stays.2
    · obtain ⟨_, space, rest, cut, _⟩ := front
      exact colon_notMem_of_isProperty usable (by simp [cut])
  | spaced unknown loses cut first spelled =>
    rename_i space rest
    rw [spelled] at usable ⊢
    obtain ⟨_, whole⟩ : (space ≠ [] ∧ rest ≠ []) ∧ _ := by
      refine (namespaced_cases cut first).resolve_left fun none => ?_
      rw [none.2, isProperty_empty] at usable
      cases usable
    rw [map_toLower_of_cut lower cut] at whole
    have inSpace : '-' ∈ (namespaced name).toList ↔ '-' ∈ space := by
      rw [whole, List.mem_append, or_iff_left (hyphen_notMem_capitalize rest)]
    constructor
    · rintro ⟨hyphen, _⟩
      exact ⟨unknown, space, rest, cut, first, inSpace.1 hyphen⟩
    · rintro ⟨_, other, another, otherCut, otherFirst, hyphen⟩
      obtain ⟨rfl, rfl⟩ := cut_inj first otherFirst (cut.symm.trans otherCut)
      refine ⟨inSpace.2 hyphen, ?_⟩
      rw [← Bool.not_eq_true]
      intro keeps
      -- what the property begins with up to its first hyphen, the name begins with
      have keepsToo : keepsHyphens name = true := by
        rw [keepsHyphens_iff, whole] at keeps
        rw [keepsHyphens_iff, cut]
        exact keeps.imp
          (fun begins => (isPrefix_of_mem (by decide) hyphen begins).trans (List.prefix_append _ _))
          (fun begins => (isPrefix_of_mem (by decide) hyphen begins).trans (List.prefix_append _ _))
      rw [loses] at keepsToo
      cases keepsToo
  | hyphened unknown loses noColon hyphen spelled =>
    rw [spelled]
    refine iff_of_false (fun stays => hyphen_notMem_camelCase name stays.1) fun front => ?_
    obtain ⟨_, space, rest, cut, _⟩ := front
    exact noColon (by simp [cut])
  | bare unknown noColon noHyphen spelled =>
    rw [spelled]
    refine iff_of_false (fun stays => noHyphen stays.1) fun front => ?_
    obtain ⟨_, space, rest, cut, _⟩ := front
    exact noColon (by simp [cut])

end JsxPages.Name
