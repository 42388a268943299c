import JsxPages.Image.Reference
import JsxPages.Proofs.Tables.Entries
import JsxPages.Proofs.Text.Ascii
import JsxPages.Proofs.Text.Cuts
import JsxPages.Proofs.Text.Words
/-!
# What a reference to an image resolves to

The rules for addresses, said by what an address looks like and not by how it is taken apart: which
ones are left alone (`IsAbsolute`), which file any other names (`Names`), and which files are images
(`HasImageExtension`). They give an address one outcome, whatever is in the table
(`exists_outcome_resolve`). The table only decides under which identifier an image is imported, and
that stays as it is once the image is in the table.
-/

namespace JsxPages.Image

/-! ### Absolute addresses and images -/

/-- Whether an address begins in one of the ways, in any letter case, in which those begin that are
left alone. -/
def IsAbsolute (address : String) : Prop :=
  ∃ start rest, address = start ++ rest ∧ Text.lower start ∈ absoluteStarts

theorem isAbsolute_iff {address : String} : isAbsolute address = true ↔ IsAbsolute address := by
  rw [isAbsolute, List.any_eq_true]
  constructor
  · rintro ⟨start, listed, begins⟩
    obtain ⟨rest, whole⟩ := List.isPrefixOf_iff_prefix.1 begins
    rw [Text.lower, String.toList_ofList] at whole
    obtain ⟨before, after, cut, small, _⟩ := List.map_eq_append_iff.1 whole.symm
    refine ⟨String.ofList before, String.ofList after, ?_, ?_⟩
    · rw [← String.ofList_append, ← cut, String.ofList_toList]
    · rwa [Text.lower, String.toList_ofList, small, String.ofList_toList]
  · rintro ⟨start, rest, rfl, listed⟩
    refine ⟨_, listed, List.isPrefixOf_iff_prefix.2 ?_⟩
    simp [Text.lower]

/-- Whether a file name ends in one of the extensions of images, in any letter case. -/
def HasImageExtension (filename : String) : Prop :=
  ∃ stem extension, filename = stem ++ "." ++ extension ∧ Text.lower extension ∈ extensions

theorem isImage_iff {filename : String} :
    isImage filename = true ↔ HasImageExtension filename := by
  constructor
  · intro image
    unfold isImage at image
    split at image
    · rename_i stem extension cut
      have whole := Text.cutLast_eq_some cut
      refine ⟨String.ofList stem, String.ofList extension, ?_, List.contains_iff_mem.1 image⟩
      apply String.toList_injective
      simp [whole]
    · cases image
  · rintro ⟨stem, extension, rfl, listed⟩
    have noPoint : ∀ known ∈ extensions, '.' ∉ known.toList := by decide
    have free : '.' ∉ extension.toList := by
      intro point
      apply noPoint _ listed
      rw [Text.lower, String.toList_ofList]
      exact List.mem_map.2 ⟨'.', point, by decide⟩
    have cut := Text.cutLast_append free stem.toList
    have whole : (stem ++ "." ++ extension).toList = stem.toList ++ '.' :: extension.toList := by
      simp
    rw [isImage, whole, cut]
    simpa using listed

/-! ### Guessed files -/

/-- The part of a path that its file is named by: the last segment, unless a path that does not
start at the root leads through a flat directory. Then it is what stands below that directory, where
it occurs first. -/
inductive NamePart (imagesDir : String) (path : List Char) : List Char → Prop where
  | rooted {segment : List Char} (root : path.head? = some '/')
      (last : Text.IsLastPart '/' path segment) : NamePart imagesDir path segment
  | below {directory rest : List Char} {earlier later : List (List Char)}
      (relative : path.head? ≠ some '/') (flat : flatDirs imagesDir = earlier ++ directory :: later)
      (others : ∀ other ∈ earlier, ¬ other <:+: path)
      (behind : Text.IsBehindFirst directory path rest) : NamePart imagesDir path rest
  | loose {segment : List Char} (relative : path.head? ≠ some '/')
      (others : ∀ directory ∈ flatDirs imagesDir, ¬ directory <:+: path)
      (last : Text.IsLastPart '/' path segment) : NamePart imagesDir path segment

theorem belowFlatDir?_eq_some_iff {imagesDir : String} {path rest : List Char} :
    belowFlatDir? imagesDir path = some rest ↔ ∃ earlier directory later,
      flatDirs imagesDir = earlier ++ directory :: later ∧
        Text.IsBehindFirst directory path rest ∧ ∀ other ∈ earlier, ¬ other <:+: path := by
  simp only [belowFlatDir?, List.findSome?_eq_some_iff, Text.afterFirst_eq_some_iff,
    Text.afterFirst_eq_none_iff]

theorem belowFlatDir?_eq_none_iff {imagesDir : String} {path : List Char} :
    belowFlatDir? imagesDir path = none ↔
      ∀ directory ∈ flatDirs imagesDir, ¬ directory <:+: path := by
  simp only [belowFlatDir?, List.findSome?_eq_none_iff, Text.afterFirst_eq_none_iff]

theorem namePart_iff {imagesDir : String} {path part : List Char} :
    NamePart imagesDir path part ↔
      (if path.head? = some '/' then Text.afterLast '/' path
        else (belowFlatDir? imagesDir path).getD (Text.afterLast '/' path)) = part := by
  by_cases root : path.head? = some '/'
  · rw [if_pos root, Text.afterLast_eq_iff]
    constructor
    · intro named
      cases named with
      | rooted _ last => exact last
      | below relative | loose relative => exact absurd root relative
    · exact .rooted root
  rw [if_neg root]
  cases found : belowFlatDir? imagesDir path with
  | none =>
    rw [Option.getD_none, Text.afterLast_eq_iff]
    constructor
    · intro named
      cases named with
      | rooted root' => exact absurd root' root
      | below _ flat others behind =>
        rw [belowFlatDir?_eq_some_iff.2 ⟨_, _, _, flat, behind, others⟩] at found
        cases found
      | loose _ _ last => exact last
    · exact .loose root (belowFlatDir?_eq_none_iff.1 found)
  | some rest =>
    rw [Option.getD_some]
    constructor
    · intro named
      cases named with
      | rooted root' => exact absurd root' root
      | below _ flat others behind =>
        rw [belowFlatDir?_eq_some_iff.2 ⟨_, _, _, flat, behind, others⟩] at found
        exact (Option.some.inj found).symm
      | loose _ others =>
        rw [belowFlatDir?_eq_none_iff.2 others] at found
        cases found
    · rintro rfl
      obtain ⟨_, _, _, flat, behind, others⟩ := belowFlatDir?_eq_some_iff.1 found
      exact .below root flat others behind

/-- The file name that an address is guessed to stand for: the part that names the file, trimmed,
unless that names none. -/
def IsGuess (imagesDir address filename : String) : Prop :=
  ∃ part, NamePart imagesDir (pathOf address) part ∧ filename = Text.trim (String.ofList part) ∧
    filename ∉ ["", ".", ".."]

theorem guess?_eq_some_iff {imagesDir address filename : String} :
    guess? imagesDir address = some filename ↔ IsGuess imagesDir address filename := by
  have stored {part : List Char} (named : NamePart imagesDir (pathOf address) part) :
      storedName imagesDir (pathOf address) = Text.trim (String.ofList part) := by
    rw [storedName, namePart_iff.1 named]
  obtain ⟨part, named⟩ : ∃ part, NamePart imagesDir (pathOf address) part :=
    ⟨_, namePart_iff.2 rfl⟩
  simp only [guess?, stored named, ite_eq_iff, reduceCtorEq, and_false, false_or, Option.some.injEq]
  constructor
  · rintro ⟨usable, rfl⟩
    exact ⟨part, named, rfl, by simpa using usable⟩
  · rintro ⟨other, another, rfl, usable⟩
    rw [← stored another, stored named] at usable ⊢
    exact ⟨by simpa using usable, rfl⟩

theorem NamePart.suffix {imagesDir : String} {path part : List Char}
    (named : NamePart imagesDir path part) : part <:+ path := by
  have lastSegment {segment : List Char} (last : Text.IsLastPart '/' path segment) :
      segment <:+ path := by
    rcases last.2 with same | ⟨before, whole⟩
    · exact same ▸ List.suffix_rfl
    · rw [whole]
      exact (List.suffix_cons _ _).trans (List.suffix_append _ _)
  cases named with
  | rooted _ last => exact lastSegment last
  | below _ _ _ behind =>
    obtain ⟨before, whole, _⟩ := behind
    rw [whole, ← List.append_assoc]
    exact List.suffix_append _ _
  | loose _ _ last => exact lastSegment last

theorem IsGuess.mem {imagesDir address filename : String}
    (guess : IsGuess imagesDir address filename) {c : Char} (mem : c ∈ filename.toList) :
    ∃ part, NamePart imagesDir (pathOf address) part ∧ c ∈ part := by
  obtain ⟨part, named, rfl, _⟩ := guess
  obtain ⟨before, after, whole, _⟩ := Text.exists_trimWhere Text.isBlank part
  rw [Text.trim, String.toList_ofList, String.toList_ofList] at mem
  refine ⟨part, named, ?_⟩
  rw [whole]
  exact List.mem_append_left _ (List.mem_append_right _ mem)

theorem IsGuess.usable {imagesDir address filename : String}
    (guess : IsGuess imagesDir address filename) : filename ∉ ["", ".", ".."] := by
  obtain ⟨_, _, _, usable⟩ := guess
  exact usable

/-- A guessed name has neither a query nor a fragment, and no directory where the address starts at
the root. -/
theorem IsGuess.plain {imagesDir address filename : String}
    (guess : IsGuess imagesDir address filename) :
    Text.trim filename = filename ∧ (∀ c ∈ filename.toList, c ≠ '?' ∧ c ≠ '#') ∧
      (address.toList.head? = some '/' → '/' ∉ filename.toList) := by
  refine ⟨?_, fun c mem => ?_, fun root mem => ?_⟩
  · obtain ⟨part, _, rfl, _⟩ := guess
    rw [Text.trim, Text.trim, String.toList_ofList, Text.trimWhere_trimWhere fun c blank => blank]
  · obtain ⟨part, named, inPart⟩ := guess.mem mem
    simpa using List.mem_takeWhile_imp (named.suffix.subset inPart)
  · obtain ⟨part, named, inPart⟩ := guess.mem mem
    have rootedPath : (pathOf address).head? = some '/' := by
      obtain ⟨rest, spelled⟩ := List.head?_eq_some_iff.1 root
      simp [pathOf, spelled]
    cases named with
    | rooted _ last => exact last.1 inPart
    | below relative | loose relative => exact relative rootedPath

/-! ### Named files -/

/-- Whether the asset map has a file for an address, as it is or without a slash in front. -/
def IsMapped (assets : AssetMap) (address filename : String) : Prop :=
  assets.find? address = some filename ∨ assets.find? address = none ∧
    ∃ rest, address = "/" ++ rest ∧ assets.find? rest = some filename

theorem resolve?_eq_some_iff {assets : AssetMap} {address filename : String} :
    assets.resolve? address = some filename ↔ IsMapped assets address filename := by
  have spelled (rest : String) : address.toList = '/' :: rest.toList ↔ address = "/" ++ rest := by
    rw [← String.toList_inj, String.toList_append]
    rfl
  rw [AssetMap.resolve?, Option.or_eq_some_iff]
  refine or_congr_right (and_congr_right fun _ => ?_)
  split
  · rename_i rest slash
    constructor
    · intro found
      exact ⟨_, (spelled _).1 (by rw [slash, String.toList_ofList]), found⟩
    · rintro ⟨other, same, found⟩
      obtain ⟨_, tail⟩ := List.cons.inj (slash.symm.trans ((spelled other).2 same))
      rwa [tail, String.ofList_toList]
  · rename_i noSlash
    refine iff_of_false nofun ?_
    rintro ⟨rest, same, _⟩
    exact noSlash _ ((spelled rest).2 same)

theorem IsMapped.unique {assets : AssetMap} {address filename other : String}
    (mapped : IsMapped assets address filename) (another : IsMapped assets address other) :
    filename = other :=
  Option.some.inj
    ((resolve?_eq_some_iff.2 mapped).symm.trans (resolve?_eq_some_iff.2 another))

/-- The file that an address names: the mapped one, or else the guessed one. -/
inductive Names (assets : AssetMap) (imagesDir address filename : String) : Prop where
  | mapped (mapped : IsMapped assets address filename)
  | guessed (unmapped : ∀ other, ¬ IsMapped assets address other)
      (guess : IsGuess imagesDir address filename)

theorem Names.unique {assets : AssetMap} {imagesDir address filename other : String}
    (named : Names assets imagesDir address filename)
    (another : Names assets imagesDir address other) : filename = other := by
  cases named with
  | mapped mapped =>
    cases another with
    | mapped also => exact mapped.unique also
    | guessed unmapped => exact absurd mapped (unmapped filename)
  | guessed unmapped guess =>
    cases another with
    | mapped mapped => exact absurd mapped (unmapped other)
    | guessed _ also =>
      rw [← guess?_eq_some_iff] at guess also
      exact Option.some.inj (guess.symm.trans also)

/-! ### Outcomes -/

/-- What comes of an address, for every table of images. -/
inductive Outcome (assets : AssetMap) (imagesDir address : String) :
    (Imports → Reference × Imports) → Prop where
  | absolute (absolute : IsAbsolute address) :
      Outcome assets imagesDir address fun imports => (.unchanged, imports)
  | image {filename : String} (relative : ¬ IsAbsolute address)
      (named : Names assets imagesDir address filename) (image : HasImageExtension filename) :
      Outcome assets imagesDir address fun imports =>
        (.imported (imports.register filename).1, (imports.register filename).2)
  | file {filename : String} (relative : ¬ IsAbsolute address)
      (mapped : IsMapped assets address filename) (other : ¬ HasImageExtension filename) :
      Outcome assets imagesDir address fun imports => (.path ("./" ++ filename), imports)
  | unknown (relative : ¬ IsAbsolute address)
      (useless : ∀ filename, Names assets imagesDir address filename →
        ¬ IsMapped assets address filename ∧ ¬ HasImageExtension filename) :
      Outcome assets imagesDir address fun imports => (.unchanged, imports)

theorem refer_of_image {filename : String} (image : HasImageExtension filename) (imports : Imports)
    (otherwise : Reference) : refer imports filename otherwise =
      (.imported (imports.register filename).1, (imports.register filename).2) := by
  rw [refer, if_pos (isImage_iff.2 image)]

theorem refer_of_other {filename : String} (other : ¬ HasImageExtension filename)
    (imports : Imports) (otherwise : Reference) :
    refer imports filename otherwise = (otherwise, imports) := by
  rw [refer, if_neg (mt isImage_iff.1 other)]

/-- **An address has one outcome**, whatever is in the table. -/
theorem exists_outcome_resolve (assets : AssetMap) (imagesDir value : String) :
    ∃ act, Outcome assets imagesDir (Text.trim value) act ∧
      ∀ imports, resolve assets imagesDir imports value = act imports := by
  simp only [resolve]
  generalize Text.trim value = address
  by_cases absolute : IsAbsolute address
  · exact ⟨_, .absolute absolute, fun imports => if_pos (isAbsolute_iff.2 absolute)⟩
  simp only [if_neg (mt isAbsolute_iff.1 absolute)]
  cases mapped : assets.resolve? address with
  | some filename =>
    have isMapped := resolve?_eq_some_iff.1 mapped
    by_cases image : HasImageExtension filename
    · exact ⟨_, .image absolute (.mapped isMapped) image, fun imports => refer_of_image image ..⟩
    · exact ⟨_, .file absolute isMapped image, fun imports => refer_of_other image ..⟩
  | none =>
    have unmapped (other : String) : ¬ IsMapped assets address other := by
      rw [← resolve?_eq_some_iff, mapped]
      exact nofun
    have isGuess {filename : String} (named : Names assets imagesDir address filename) :
        guess? imagesDir address = some filename := by
      cases named with
      | mapped mapped => exact absurd mapped (unmapped filename)
      | guessed _ guess => exact guess?_eq_some_iff.2 guess
    cases guessed : guess? imagesDir address with
    | none =>
      refine ⟨_, .unknown absolute fun filename named => ?_, fun imports => rfl⟩
      rw [isGuess named] at guessed
      cases guessed
    | some filename =>
      by_cases image : HasImageExtension filename
      · exact ⟨_, .image absolute (.guessed unmapped (guess?_eq_some_iff.1 guessed)) image,
          fun imports => refer_of_image image ..⟩
      · refine ⟨_, .unknown absolute fun other named => ⟨unmapped other, ?_⟩,
          fun imports => refer_of_other image ..⟩
        rwa [← Option.some.inj (guessed.symm.trans (isGuess named))]

/-! ### The table -/

theorem Imports.find?_register (imports : Imports) (filename : String) :
    (imports.register filename).2.find? filename = some (imports.register filename).1 := by
  rcases imports.register_cases filename with ⟨known, found, same⟩ | ⟨none, identifier, _, added⟩
  · rw [same, found]
  · rw [Imports.find?] at none
    rw [added, Imports.find?, List.lookup_append, none, Option.none_or, lookup_cons_self]

/-- A file that is in a table leaves every later one as it is. -/
theorem Imports.register_of_prefix {earlier later : Imports} {filename identifier : String}
    (found : earlier.find? filename = some identifier) (grown : earlier.entries <+: later.entries) :
    later.register filename = (identifier, later) := by
  obtain ⟨more, whole⟩ := grown
  have known : later.find? filename = some identifier := by
    rw [Imports.find?] at found
    rw [Imports.find?, ← whole, List.lookup_append, found, Option.some_or]
  simp only [Imports.register, known]

namespace Outcome

variable {assets : AssetMap} {imagesDir address : String} {act : Imports → Reference × Imports}

theorem imported_iff (outcome : Outcome assets imagesDir address act) (imports : Imports)
    (identifier : String) : (act imports).1 = .imported identifier ↔ ¬ IsAbsolute address ∧
      ∃ filename, Names assets imagesDir address filename ∧ HasImageExtension filename ∧
        (act imports).2 = (imports.register filename).2 ∧
          (act imports).2.find? filename = some identifier := by
  cases outcome with
  | absolute absolute => exact iff_of_false nofun fun imported => imported.1 absolute
  | image relative named image =>
    rename_i filename
    have found := imports.find?_register filename
    constructor
    · rintro ⟨⟩
      exact ⟨relative, filename, named, image, rfl, found⟩
    · rintro ⟨_, other, another, _, _, same⟩
      rw [← named.unique another] at same
      exact congrArg Reference.imported (Option.some.inj (found.symm.trans same))
  | file _ mapped other =>
    refine iff_of_false nofun ?_
    rintro ⟨_, filename, named, image, _⟩
    rw [named.unique (.mapped mapped)] at image
    exact other image
  | unknown _ useless =>
    refine iff_of_false nofun ?_
    rintro ⟨_, filename, named, image, _⟩
    exact (useless filename named).2 image

theorem path_iff (outcome : Outcome assets imagesDir address act) (imports : Imports)
    (path : String) : (act imports).1 = .path path ↔ ¬ IsAbsolute address ∧
      ∃ filename, IsMapped assets address filename ∧ ¬ HasImageExtension filename ∧
        path = "./" ++ filename := by
  cases outcome with
  | absolute absolute => exact iff_of_false nofun fun referred => referred.1 absolute
  | image _ named image =>
    refine iff_of_false nofun ?_
    rintro ⟨_, filename, mapped, other, _⟩
    rw [named.unique (.mapped mapped)] at image
    exact other image
  | file relative mapped other =>
    rename_i filename
    constructor
    · rintro ⟨⟩
      exact ⟨relative, filename, mapped, other, rfl⟩
    · rintro ⟨_, file, also, _, rfl⟩
      rw [mapped.unique also]
  | unknown _ useless =>
    refine iff_of_false nofun ?_
    rintro ⟨_, filename, mapped, _⟩
    exact (useless filename (.mapped mapped)).1 mapped

theorem unchanged_iff (outcome : Outcome assets imagesDir address act) (imports : Imports) :
    (act imports).1 = .unchanged ↔ IsAbsolute address ∨
      ∀ filename, Names assets imagesDir address filename →
        ¬ IsMapped assets address filename ∧ ¬ HasImageExtension filename := by
  cases outcome with
  | absolute absolute => exact iff_of_true rfl (.inl absolute)
  | image relative named image =>
    exact iff_of_false nofun (not_or.2 ⟨relative, fun useless => (useless _ named).2 image⟩)
  | file relative mapped =>
    refine iff_of_false nofun (not_or.2 ⟨relative, fun useless => ?_⟩)
    exact (useless _ (.mapped mapped)).1 mapped
  | unknown _ useless => exact iff_of_true rfl (.inr useless)

/-- Only an image gets into the table. -/
theorem table (outcome : Outcome assets imagesDir address act) {imports : Imports}
    (noImage : ∀ identifier, (act imports).1 ≠ .imported identifier) :
    (act imports).2 = imports := by
  cases outcome with
  | image => exact absurd rfl (noImage _)
  | absolute | file | unknown => rfl

theorem again (outcome : Outcome assets imagesDir address act) {imports later : Imports}
    (grown : (act imports).2.entries <+: later.entries) : act later = ((act imports).1, later) := by
  cases outcome with
  | image =>
    rename_i filename _ _ _
    have same := Imports.register_of_prefix (imports.find?_register filename) grown
    simp only [same]
  | absolute | file | unknown => rfl

end Outcome

/-- **An address is resolved by its look and the asset map alone.** An absolute one is left alone.
Any other names a file: the mapped one or else the guessed one. If that is an image, it is in the
table afterwards and its identifier is the answer, and in no other case does the table change. A
mapped file that is no image is referred to by its path. Resolving the address again, at once or
when the table has grown, gives the same answer and leaves the table as it is. A guessed name is a
proper name of a file. -/
theorem resolve_follows_rules (assets : AssetMap) (imagesDir : String) (imports : Imports)
    (value : String) :
    let address := Text.trim value
    let result := resolve assets imagesDir imports value
    (IsAbsolute address → result.1 = .unchanged) ∧
    (∀ identifier, result.1 = .imported identifier ↔ ¬ IsAbsolute address ∧
      ∃ filename, Names assets imagesDir address filename ∧ HasImageExtension filename ∧
        result.2 = (imports.register filename).2 ∧ result.2.find? filename = some identifier) ∧
    (∀ path, result.1 = .path path ↔ ¬ IsAbsolute address ∧
      ∃ filename, IsMapped assets address filename ∧ ¬ HasImageExtension filename ∧
        path = "./" ++ filename) ∧
    (result.1 = .unchanged ↔ IsAbsolute address ∨ ∀ filename,
      Names assets imagesDir address filename →
        ¬ IsMapped assets address filename ∧ ¬ HasImageExtension filename) ∧
    ((∀ identifier, result.1 ≠ .imported identifier) → result.2 = imports) ∧
    (∀ later, result.2.entries <+: later.entries →
      resolve assets imagesDir later value = (result.1, later)) ∧
    ∀ filename, IsGuess imagesDir address filename →
      filename ∉ ["", ".", ".."] ∧ Text.trim filename = filename ∧
        (∀ c ∈ filename.toList, c ≠ '?' ∧ c ≠ '#') ∧
        (address.toList.head? = some '/' → '/' ∉ filename.toList) := by
  intro address result
  obtain ⟨act, outcome, resolved⟩ := exists_outcome_resolve assets imagesDir value
  simp only [result, resolved]
  exact ⟨fun absolute => (outcome.unchanged_iff imports).2 (.inl absolute),
    outcome.imported_iff imports, outcome.path_iff imports, outcome.unchanged_iff imports,
    outcome.table, fun later => outcome.again, fun filename guess => ⟨guess.usable, guess.plain⟩⟩

end JsxPages.Image
