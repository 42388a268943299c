import JsxPages.Proofs.Attribute.Names
import JsxPages.Proofs.Attribute.Values
import JsxPages.Proofs.Image.Identifier
import JsxPages.Proofs.Jsx.Printed
import JsxPages.Proofs.Tables.Attributes
/-!
# Converted start tags, read again

Whatever the attributes of a tag are, what is emitted for them can be read back where it is written
(`properties_readable`): names are properties of markup, and expressions are closed code if the
scripts of handlers are. The proof follows the attributes one by one. Images need more than the
attribute itself: their identifiers come from the tables, where all of them can be bound, and
whatever the attributes are this stays so (`bindable_gatherFrom`).

So a start tag that is written with converted attributes is read back exactly, with anything behind
it (`scan_converted`).
-/

namespace JsxPages

open Jsx (Closed)

theorem Jsx.readable_of_isProperty {name : String} {value : Value}
    (property : Name.isProperty name = true)
    (closed : ∀ code, value = .expression code → Closed code.toList) :
    Attribute.IsReadable ⟨name, value⟩ := by
  obtain ⟨some, inName⟩ := Name.inAttributeName_of_isProperty property
  exact ⟨some, inName, closed⟩

namespace Attribute

/-- If an attribute holds a handler, the script closes what it opens and nothing else. -/
def HasClosedScript (attr : String × String) : Prop :=
  Name.isEvent (Text.lower attr.1) = true → Closed attr.2.toList

instance (attr : String × String) : Decidable (HasClosedScript attr) :=
  inferInstanceAs (Decidable (_ → _))

theorem readable_handler {name script : String} (event : Name.isEvent name = true)
    (closed : Closed script.toList) :
    Jsx.Attribute.IsReadable ⟨Name.eventProperty name, .expression (handler script)⟩ := by
  refine Jsx.readable_of_isProperty (Name.isProperty_eventProperty event) ?_
  rintro _ ⟨⟩
  exact closed_handler closed

theorem readable_object {style : Style} (named : style.Named) {object : String}
    (given : style.objectLiteral? = some object) :
    Jsx.Attribute.IsReadable ⟨"style", .expression object⟩ := by
  refine Jsx.readable_of_isProperty (by decide) ?_
  rintro _ ⟨⟩
  exact Style.closed_objectLiteral named given

theorem readable_className (classes : List String) :
    ∀ attr ∈ classAttribute classes, attr.IsReadable := by
  intro attr mem
  unfold classAttribute at mem
  split at mem
  · cases mem
  · obtain rfl := List.mem_singleton.1 mem
    exact Jsx.readable_of_isProperty (by decide) nofun

theorem isInert_of_isBinding {identifier : String} (binding : Image.isBinding identifier = true) :
    ∀ c ∈ identifier.toList, Jsx.isInert c = true := by
  obtain ⟨_, alphanumeric⟩ := Options.hasShape_iff.1 (Bool.and_eq_true_iff.1 binding).1
  exact fun c mem => (Jsx.isInert_of (by decide +kernel) (alphanumeric c mem)).1

namespace Gathered

def IsReadable (gathered : Gathered) : Prop :=
  ∀ attr ∈ gathered.attributes, attr.IsReadable

variable {gathered : Gathered}

theorem IsReadable.addAttribute (readable : gathered.IsReadable) {name : String}
    {value : Jsx.Value} (added : Jsx.Attribute.IsReadable ⟨name, value⟩) :
    (gathered.addAttribute name value).IsReadable :=
  List.forall_mem_append.2 ⟨readable, List.forall_mem_singleton.2 added⟩

theorem IsReadable.addObject (readable : gathered.IsReadable) {style : Style}
    (named : style.Named) : (gathered.addObject style).IsReadable := by
  unfold Gathered.addObject
  split
  · rename_i object given
    exact readable.addAttribute (readable_object named given)
  · exact readable

theorem IsReadable.addCustom (readable : gathered.IsReadable) (stem : String) (style : Style) :
    (gathered.addCustom stem style).IsReadable := by
  unfold Gathered.addCustom
  split <;> exact readable

/-- An image is set to an identifier of the tables or to a text. -/
theorem IsReadable.addImage (readable : gathered.IsReadable)
    (bindable : gathered.tables.images.Bindable) {emitted : String}
    (property : Name.isProperty emitted = true) (assets : AssetMap) (imagesDir value : String) :
    (gathered.addImage assets imagesDir emitted value).IsReadable := by
  have bound : ∀ identifier,
      (Image.resolve assets imagesDir gathered.tables.images value).1 = .imported identifier →
        Image.isBinding identifier = true := by
    intro identifier imported
    rcases Image.resolve_cases assets imagesDir gathered.tables.images value with
      ⟨filename, _, _, same⟩ | ⟨plain, _⟩
    · rw [same] at imported
      obtain rfl := Image.Reference.imported.inj imported
      exact bindable.register filename _
        (List.mem_map_of_mem (Image.Imports.mem_register _ filename))
    · exact absurd imported (plain identifier)
  unfold Gathered.addImage
  generalize Image.resolve assets imagesDir gathered.tables.images value = resolved at bound
  obtain ⟨reference, images⟩ := resolved
  have filed : IsReadable { gathered with tables := { gathered.tables with images } } := readable
  refine filed.addAttribute (Jsx.readable_of_isProperty property fun code given => ?_)
  cases reference with
  | imported identifier =>
    obtain rfl := Jsx.Value.expression.inj given
    exact Jsx.closed_of_inert (isInert_of_isBinding (bound identifier rfl))
  | path | unchanged => cases given

end Gathered

/-! ### The attributes of a tag -/

variable {assets : AssetMap} {options : Options} {tag : String} {gathered : Gathered}

theorem readable_addProperty (readable : gathered.IsReadable)
    (bindable : gathered.tables.images.Bindable) (name value : String) :
    (addProperty assets options tag gathered name value).IsReadable := by
  unfold addProperty
  split
  · exact readable
  rename_i usable
  have property : Name.isProperty (Name.property name) = true := by simpa using usable
  split
  · obtain ⟨text, given⟩ := exists_dataValue value
    rw [given]
    exact readable.addAttribute (Jsx.readable_of_isProperty property nofun)
  split
  · exact readable.addImage bindable property _ _ _
  · exact readable.addAttribute
      (Jsx.readable_of_isProperty property fun _ given => closed_plainValue given)

theorem readable_add (readable : gathered.IsReadable)
    (bindable : gathered.tables.images.Bindable) {attr : String × String}
    (script : HasClosedScript attr) :
    (add assets options tag gathered (Text.lower attr.1) attr.2).IsReadable := by
  simp only [add]
  split
  · exact readable
  split
  · exact readable
  split
  · exact (readable.addObject (Style.named_ofText attr.2)).addCustom _ _
  split
  · rename_i event
    exact readable.addAttribute (readable_handler event (script event))
  · exact readable_addProperty readable bindable _ _

theorem Step.bindable_next {step : Step} (bindable : step.gathered.tables.images.Bindable) :
    (step.next assets options).tables.images.Bindable := by
  cases step.records assets options with
  | nothing tables plain => rwa [tables]
  | image filename file isImage attributes tables =>
    rw [tables]
    exact bindable.register filename
  | style isStyle tables classes => rwa [tables]

theorem bindable_gatherFrom (gathered : Gathered) (bindable : gathered.tables.images.Bindable)
    (attributes : List (String × String)) :
    (gatherFrom assets options tag attributes gathered).tables.images.Bindable := by
  induction attributes generalizing gathered with
  | nil => exact bindable
  | cons attr attributes ih =>
    rw [gatherFrom_cons]
    exact ih _ (Step.bindable_next bindable)

theorem readable_gatherFrom (readable : gathered.IsReadable)
    (bindable : gathered.tables.images.Bindable) {attributes : List (String × String)}
    (scripts : ∀ attr ∈ attributes, HasClosedScript attr) :
    (gatherFrom assets options tag attributes gathered).IsReadable := by
  induction attributes generalizing gathered with
  | nil => exact readable
  | cons attr attributes ih =>
    obtain ⟨first, others⟩ := List.forall_mem_cons.1 scripts
    rw [gatherFrom_cons]
    exact ih (readable_add readable bindable first) (Step.bindable_next bindable) others

/-- **What is emitted for the attributes of a tag can be read back** if their scripts are closed. -/
theorem properties_readable {tables : Tables} (bindable : tables.images.Bindable)
    {attributes : List (String × String)} (scripts : ∀ attr ∈ attributes, HasClosedScript attr) :
    ∀ attr ∈ (properties assets options tag attributes tables).1, attr.IsReadable := by
  have readable : (gather assets options tag attributes tables).IsReadable :=
    readable_gatherFrom (by simp [Gathered.IsReadable]) bindable scripts
  exact List.forall_mem_append.2 ⟨readable, readable_className _⟩

/-- **A start tag with converted attributes is read back exactly.** Whatever the attributes are, as
long as the scripts of handlers are closed, whatever files and classes the tables hold, and whatever
follows: the tag is read to its end and no further, with its name and all its properties in their
order, each with the text in quotes or the whole expression that it was written with. -/
theorem scan_converted (assets : AssetMap) (options : Options) (files : List String)
    (classes : ClassTable) {name : String} (isName : Jsx.isTagName name = true)
    {attributes : List (String × String)} (scripts : ∀ attr ∈ attributes, HasClosedScript attr)
    (selfClosing : Bool) (rest : List Char) :
    let tables : Tables := { images := Image.Imports.ofFiles files, classes }
    Jsx.StartTag.scan (("<" ++ name ++ (convert assets options name attributes tables).1 ++
        Jsx.tagEnd selfClosing).toList ++ rest) =
      some (⟨name, (properties assets options name attributes tables).1.map Jsx.Attribute.written,
        selfClosing⟩, rest) := by
  intro tables
  have bindable : tables.images.Bindable := Image.Imports.bindable_ofFiles files
  exact Jsx.scan_printed isName (properties_readable bindable scripts) selfClosing rest

/-- Quotes, braces and the ends of tags in values of every kind. -/
def hardToScan : List (String × String) :=
  [("class", "a \"b\" /> a"), ("style", "content: '\x7d\"'; quotes: \"it's >\"; --x: 1"),
    ("ONCLICK", "javascript: go('\x7d>', \"\x7b\"); // done"),
    ("title", "<b class=\"x\"/> \x7b"), ("src", "/img/a>b.png"),
    ("data-x", "[1, \x7b\"k\": \"\x7d\"\x7d]"), ("hidden", ""), ("x", "\x7b item.name \x7d")]

/-- The start tag that is written for them. -/
def scannedText : String :=
  "<svg:a.b-c style=\x7b\x7b content: '\\'\x7d\"\\'', quotes: '\"it\\'s >\"' \x7d\x7d" ++
    " onClick=\x7b() => \x7b go('\x7d>', \"\x7b\"); // done\n\x7d\x7d" ++
    " title=\"<b class=&quot;x&quot;/> \x7b\" src=\x7baB3\x7d" ++
    " data-x=\"[1,\x7b&quot;k&quot;:&quot;\x7d&quot;\x7d]\" hidden=\x7btrue\x7d" ++
    " x=\x7bitem.name\x7d className=\"a &quot;b&quot; /> custom-var-2\" />"

theorem scan_converted_hardToScan :
    Jsx.isTagName "svg:a.b-c" = true ∧ (∀ attr ∈ hardToScan, HasClosedScript attr) ∧
      Jsx.StartTag.scan (scannedText.toList ++ "<b>/>\x7d\"".toList) =
        some (⟨"svg:a.b-c",
          [⟨"style", some (.expression
              "\x7b\x7b content: '\\'\x7d\"\\'', quotes: '\"it\\'s >\"' \x7d\x7d")⟩,
            ⟨"onClick", some (.expression
              "\x7b() => \x7b go('\x7d>', \"\x7b\"); // done\n\x7d\x7d")⟩,
            ⟨"title", some (.quoted "<b class=&quot;x&quot;/> \x7b")⟩,
            ⟨"src", some (.expression "\x7baB3\x7d")⟩,
            ⟨"data-x", some (.quoted "[1,\x7b&quot;k&quot;:&quot;\x7d&quot;\x7d]")⟩,
            ⟨"hidden", some (.expression "\x7btrue\x7d")⟩,
            ⟨"x", some (.expression "\x7bitem.name\x7d")⟩,
            ⟨"className", some (.quoted "a &quot;b&quot; /> custom-var-2")⟩], true⟩,
          "<b>/>\x7d\"".toList) := by
  have isName : Jsx.isTagName "svg:a.b-c" = true := by decide
  have scripts : ∀ attr ∈ hardToScan, HasClosedScript attr := by decide +kernel
  have emitted : (properties {} {} "svg:a.b-c" hardToScan
      { images := Image.Imports.ofFiles ["a b.png", "a-b.png"],
        classes := ⟨[("custom-var-1", [])]⟩ }).1 =
      [⟨"style", .expression "\x7b content: '\\'\x7d\"\\'', quotes: '\"it\\'s >\"' \x7d"⟩,
        ⟨"onClick", .expression "() => \x7b go('\x7d>', \"\x7b\"); // done\n\x7d"⟩,
        ⟨"title", .literal "<b class=\"x\"/> \x7b"⟩, ⟨"src", .expression "aB3"⟩,
        ⟨"data-x", .literal "[1,\x7b\"k\":\"\x7d\"\x7d]"⟩, ⟨"hidden", .expression "true"⟩,
        ⟨"x", .expression "item.name"⟩, ⟨"className", .literal "a \"b\" /> custom-var-2"⟩] := by
    decide +kernel
  have scanned := scan_converted {} {} ["a b.png", "a-b.png"] ⟨[("custom-var-1", [])]⟩ isName
    scripts true "<b>/>\x7d\"".toList
  simp only [convert, emitted] at scanned
  refine ⟨isName, scripts, Eq.trans (congrArg _ (congrArg (String.toList · ++ _) ?_))
    (scanned.trans (congrArg _ ?_))⟩
  · decide +kernel
  · decide +kernel

end Attribute

end JsxPages
