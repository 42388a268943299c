import JsxPages.Proofs.Tables.Starts
/-!
# Tables that are shared

Documents and single tags may be converted one after the other with the same tables, each with its
own options and its own asset map. Whatever is converted later, an identifier that stands for a file
in the markup stays the identifier of that file and of no other, and a class in the markup stays the
class of the custom properties that it was minted for.

The markup of a call is made of the start tags that it converts (`Call.texts_subset`), and what
these refer to is in the tables behind them. The tables then only grow (`grown_recordAll`), and what
makes an entry the only one under its name holds of them at any time (`sound_recordAll`).
-/

namespace JsxPages.Document

/-- What is converted at once. -/
inductive Call where
  | document (setting : Setting) (html : String)
  | tag (setting : Setting) (name : String) (attributes : List (String × String))

namespace Call

def setting : Call → Setting
  | document setting _ | tag setting _ _ => setting

def record (tables : Tables) : Call → Tables
  | document setting html => (convertWith setting html tables).2
  | tag setting name attributes =>
    (Attribute.convert setting.assets setting.options name attributes tables).2

/-- All attributes that a call writes, to the outputs of a document and to its wrapper. -/
def texts (tables : Tables) : Call → List String
  | document setting html =>
    (Pass.sent setting { tables } (Html.tokens html)).filterMap (·.2.attributes?) ++
      (Pass.run setting { tables } (Html.tokens html)).bodyAttributes.toList
  | tag setting name attributes =>
    [(Attribute.convert setting.assets setting.options name attributes tables).1]

def starts (tables : Tables) : Call → List Start
  | document setting html => Pass.starts setting { tables } (Html.tokens html)
  | tag _ name attributes => [⟨none, name, attributes, tables⟩]

theorem threaded (call : Call) (tables : Tables) :
    Threaded call.setting tables (call.starts tables) (call.record tables) := by
  cases call with
  | document setting html => exact Pass.threaded_run setting { tables } (Html.tokens html)
  | tag setting name attributes =>
    exact .cons ⟨none, name, attributes, tables⟩ (.nil _)

/-- A call writes the attributes of the start tags that it converts and no others. -/
theorem texts_subset (call : Call) (tables : Tables) :
    call.texts tables ⊆ (call.starts tables).map (Start.text call.setting) := by
  intro text mem
  cases call with
  | document setting html =>
    rcases List.mem_append.1 mem with inOutput | inWrapper
    · obtain ⟨⟨target, piece⟩, sent, attributes⟩ := List.mem_filterMap.1 inOutput
      obtain ⟨start, isStart, _, same⟩ := Pass.exists_sent_iff.1 ⟨piece, sent, attributes⟩
      exact List.mem_map.2 ⟨start, isStart, same⟩
    · rw [Option.mem_toList, Pass.bodyAttributes_run, Option.or_none] at inWrapper
      obtain ⟨start, isLast, same⟩ := Option.map_eq_some_iff.1 inWrapper
      have isStart := List.mem_of_mem_filter (List.mem_of_getLast? isLast)
      exact List.mem_map.2 ⟨start, isStart, same⟩
  | tag setting name attributes => exact mem

end Call

/-- The tables behind calls one after the other. -/
def recordAll (tables : Tables) (calls : List Call) : Tables :=
  calls.foldl Call.record tables

theorem grown_recordAll (tables : Tables) (calls : List Call) :
    tables.Grown (recordAll tables calls) := by
  induction calls generalizing tables with
  | nil => exact .refl tables
  | cons call calls ih => exact (call.threaded tables).grown.trans (ih _)

theorem sound_recordAll {tables : Tables} (sound : tables.Sound) (calls : List Call) :
    (recordAll tables calls).Sound := by
  induction calls generalizing tables with
  | nil => exact sound
  | cons call calls ih => exact ih ((call.threaded tables).sound sound)

theorem recordAll_append (tables : Tables) (earlier later : List Call) :
    recordAll tables (earlier ++ later) = recordAll (recordAll tables earlier) later :=
  List.foldl_append

/-- What stands in the markup of one step is in all tables that hold those behind the step. -/
theorem recorded_of_grown {setting : Setting} {step : Attribute.Step} {later : Tables}
    (grown : (step.next setting.assets setting.options).tables.Grown later) (sound : later.Sound) :
    (∀ identifier, step.Imports setting.assets setting.options identifier →
      ∃ filename,
        Image.file? setting.assets setting.options.imagesDir step.value = some filename ∧
        ∀ other, later.images.find? other = some identifier ↔ other = filename) ∧
    (∀ name, step.Mints setting.assets setting.options name →
      step.name = "style" ∧
        later.classes.find? name = some (Style.ofText step.value).customProperties) := by
  constructor
  · intro identifier imports
    obtain ⟨filename, file, mem⟩ := imports.exists_file
    exact ⟨filename, file, sound.images.find?_eq_some_iff (grown.images.subset mem)⟩
  · intro name mints
    obtain ⟨isStyle, _, mem, _⟩ := mints.backed
    exact ⟨isStyle, sound.classes.find?_of_mem (grown.classes.subset mem)⟩

/-- **What markup refers to is in the tables for ever.** Every call only adds entries to the tables.
The attributes that it writes are those of the start tags that it converts; and whatever calls come
later, an identifier that a reference to an image was replaced by is that of the file which the
reference named and of no other file, and a class that was minted for a style has the custom
properties of that style. -/
theorem recorded_for_ever (earlier : List Call) (call : Call) (later : List Call) :
    let before := recordAll {} earlier
    let final := recordAll {} (earlier ++ call :: later)
    let setting := call.setting
    before.Grown (call.record before) ∧
    (call.record before).Grown final ∧
    call.texts before ⊆ (call.starts before).map (Start.text setting) ∧
    ∀ start ∈ call.starts before, ∀ step ∈ start.steps setting,
      (∀ identifier, step.Imports setting.assets setting.options identifier →
        ⟨step.name, .expression identifier⟩ ∈ start.properties setting ∧
        ∃ filename,
          Image.file? setting.assets setting.options.imagesDir step.value = some filename ∧
          ∀ other, final.images.find? other = some identifier ↔ other = filename) ∧
      (∀ name, step.Mints setting.assets setting.options name →
        ⟨"className", .literal (" ".intercalate (start.classes setting))⟩ ∈
          start.properties setting ∧
        (∀ word ∈ Text.words name, word ∈ start.classes setting) ∧
        step.name = "style" ∧
        final.classes.find? name = some (Style.ofText step.value).customProperties) := by
  intro before final setting
  have threaded := call.threaded before
  have rest : (call.record before).Grown final := by
    have grown := grown_recordAll (call.record before) later
    rwa [show final = recordAll (call.record before) later from recordAll_append {} earlier _]
  have sound : final.Sound := sound_recordAll Tables.sound_empty _
  refine ⟨threaded.grown, rest, call.texts_subset before, ?_⟩
  intro start isStart step isStep
  have grown : (step.next setting.assets setting.options).tables.Grown final :=
    ((Start.grown_of_mem_steps isStep).tables.trans (threaded.grown_of_mem isStart)).trans rest
  obtain ⟨images, classes⟩ := recorded_of_grown grown sound
  constructor
  · intro identifier imports
    exact ⟨Start.mem_properties_of_imports isStep imports, images identifier imports⟩
  · intro name mints
    obtain ⟨property, given⟩ := Start.className_of_mints isStep mints
    exact ⟨property, given, classes name mints⟩

/-- A picture whose file has the identifier that the poster below would get. -/
def picture : Call :=
  .document {} "<img src='/a.png'>"

def video : Call :=
  .tag {} "video" [("poster", "/a.jpg"), ("style", "--x:1")]

/-- Another file behind the reference of the video. -/
def remapped : Call :=
  .document { assets := { entries := [("/a.jpg", "b.png")] } }
    "<video poster='/a.jpg' style='--x:2'>"

theorem recorded_for_ever_video :
    let final := recordAll {} ([picture] ++ video :: [remapped])
    ∃ start ∈ video.starts (recordAll {} [picture]),
      (∃ step ∈ start.steps {}, step.Imports {} {} "a2") ∧
      (∀ other, final.images.find? other = some "a2" ↔ other = "a.jpg") ∧
      (∃ step ∈ start.steps {}, step.Mints {} {} "custom-var-1") ∧
      final.classes.find? "custom-var-1" = some [("--x", "1")] := by
  intro final
  let before := recordAll {} [picture]
  let start : Start := ⟨none, "video", [("poster", "/a.jpg"), ("style", "--x:1")], before⟩
  let poster : Attribute.Step := ⟨"video", Text.lower "poster", "/a.jpg", { tables := before }⟩
  let style : Attribute.Step := ⟨"video", Text.lower "style", "--x:1", poster.next {} {}⟩
  have isStart : start ∈ video.starts before := List.mem_singleton_self _
  have isPoster : poster ∈ start.steps {} := List.mem_cons_self
  have isStyle : style ∈ start.steps {} := List.mem_cons_of_mem _ List.mem_cons_self
  have imports : poster.Imports {} {} "a2" := ⟨by decide +kernel, by decide +kernel⟩
  have mints : style.Mints {} {} "custom-var-1" := ⟨[("--x", "1")], by decide +kernel⟩
  obtain ⟨_, _, _, refers⟩ := recorded_for_ever [picture] video [remapped]
  obtain ⟨_, filename, file, only⟩ := (refers start isStart poster isPoster).1 "a2" imports
  have named : Image.file? {} "images-flat" "/a.jpg" = some "a.jpg" := by decide +kernel
  obtain rfl : filename = "a.jpg" := Option.some.inj (file.symm.trans named)
  obtain ⟨_, _, _, found⟩ := (refers start isStart style isStyle).2 "custom-var-1" mints
  have declared : (Style.ofText "--x:1").customProperties = [("--x", "1")] := by decide +kernel
  exact ⟨start, isStart, ⟨poster, isPoster, imports⟩, only, ⟨style, isStyle, mints⟩,
    found.trans (congrArg some declared)⟩

end JsxPages.Document
