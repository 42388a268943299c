import JsxPages.Proofs.Jsx.Printed
import JsxPages.Proofs.Name.Handlers
/-!
# Scripts on two ways

A script becomes a function when its attribute is converted, and likewise when markup in which it
stands between quotes is normalized. What is done to the script is the same (`handler`), but one
gets the script as it is and the other as it is written, with references for its double quotes, and
leaves them so (`handler_replace`). A reference to a double quote is no JavaScript, so the ways part
at the first double quote.
-/

namespace JsxPages

open Jsx (escapeQuotes)

/-! ### Handlers of written scripts -/

namespace Jsx

theorem toList_replace_quote (text : String) :
    (Text.replace '"' "&quot;" text).toList = escapeQuotes text.toList :=
  String.toList_ofList

theorem escapeQuotes_append (first second : List Char) :
    escapeQuotes (first ++ second) = escapeQuotes first ++ escapeQuotes second :=
  List.flatMap_append

theorem trimWhere_escapeQuotes (text : List Char) :
    Text.trimWhere Text.isBlank (escapeQuotes text) =
      escapeQuotes (Text.trimWhere Text.isBlank text) := by
  apply Text.trimWhere_flatMap
  · intro c blank
    refine if_neg ?_
    rintro rfl
    cases blank
  · intro c solid
    have reference : "&quot;".toList.all (!Text.isBlank ·) = true := by decide
    split
    · exact ⟨by decide, fun d mem => by simpa using List.all_eq_true.1 reference d mem⟩
    · exact ⟨List.cons_ne_nil _ _, by simpa using solid⟩

theorem trim_replace_quote (text : String) :
    Text.trim (Text.replace '"' "&quot;" text) = Text.replace '"' "&quot;" (Text.trim text) := by
  apply String.toList_injective
  rw [toList_replace_quote, Text.trim, Text.trim, String.toList_ofList, String.toList_ofList,
    toList_replace_quote, trimWhere_escapeQuotes]

/-- A beginning without double quotes and ampersands is found in front of references as well. -/
theorem isPrefixOf?_escapeQuotes {start : List Char} (noQuote : '"' ∉ start)
    (noReference : '&' ∉ start) (text : List Char) :
    start.isPrefixOf? (escapeQuotes text) = (start.isPrefixOf? text).map escapeQuotes := by
  induction start generalizing text with
  | nil => rfl
  | cons c start ih =>
    obtain ⟨notQuote, noQuotes⟩ := not_or.1 (noQuote ∘ List.mem_cons.2)
    obtain ⟨notReference, noReferences⟩ := not_or.1 (noReference ∘ List.mem_cons.2)
    cases text with
    | nil => rfl
    | cons d text =>
      by_cases quote : d = '"'
      · rw [quote, escapeQuotes_quote, List.isPrefixOf?, List.isPrefixOf?,
          if_neg (by simpa using Ne.symm notReference), if_neg (by simpa using Ne.symm notQuote)]
        rfl
      · rw [escapeQuotes_cons quote, List.isPrefixOf?, List.isPrefixOf?, ih noQuotes noReferences]
        split <;> rfl

end Jsx

namespace Attribute

variable {script : String}

theorem toList_handlerBody (script : String) :
    (handlerBody script).toList = Text.trimWhere Text.isBlank
      (("javascript:".toList.isPrefixOf? (Text.trim script).toList).getD
        (Text.trim script).toList) := by
  rw [handlerBody, Text.trim, String.toList_ofList, String.toList_ofList]

/-- What is done to a script does not touch its double quotes. -/
theorem handlerBody_replace (script : String) :
    handlerBody (Text.replace '"' "&quot;" script) =
      Text.replace '"' "&quot;" (handlerBody script) := by
  have scheme : "javascript:".toList.isPrefixOf? (escapeQuotes (Text.trim script).toList) =
      ("javascript:".toList.isPrefixOf? (Text.trim script).toList).map escapeQuotes :=
    Jsx.isPrefixOf?_escapeQuotes (by decide) (by decide) _
  apply String.toList_injective
  rw [toList_handlerBody, Jsx.trim_replace_quote, Jsx.toList_replace_quote, scheme,
    Option.getD_map, Jsx.trimWhere_escapeQuotes, ← toList_handlerBody, Jsx.toList_replace_quote]

theorem toList_handler (script : String) :
    (handler script).toList =
      "() => \x7b ".toList ++ (handlerBody script).toList ++ "\n\x7d".toList := by
  rw [handler, String.toList_append, String.toList_append]

theorem handler_replace (script : String) :
    handler (Text.replace '"' "&quot;" script) = Text.replace '"' "&quot;" (handler script) := by
  apply String.toList_injective
  rw [toList_handler, handlerBody_replace, Jsx.toList_replace_quote, Jsx.toList_replace_quote,
    toList_handler, Jsx.escapeQuotes_append, Jsx.escapeQuotes_append]
  rfl

/-- No double quote is lost on the way from a script to its function. -/
theorem quote_mem_handler_iff : '"' ∈ (handler script).toList ↔ '"' ∈ script.toList := by
  have trimmed : '"' ∈ (Text.trim script).toList ↔ '"' ∈ script.toList := by
    rw [Text.trim, String.toList_ofList]
    exact Text.mem_trimWhere_iff rfl
  rw [toList_handler, List.mem_append, List.mem_append, or_iff_left (by decide),
    or_iff_right (by decide), toList_handlerBody, Text.mem_trimWhere_iff rfl, ← trimmed]
  cases scheme : "javascript:".toList.isPrefixOf? (Text.trim script).toList with
  | none => rfl
  | some rest =>
    rw [← List.isPrefixOf?_eq_some_iff_append_eq.1 scheme, List.mem_append,
      or_iff_right (by decide)]
    rfl

theorem handler_replace_eq_iff :
    handler (Text.replace '"' "&quot;" script) = handler script ↔ '"' ∉ script.toList := by
  constructor
  · intro same
    rw [← quote_mem_handler_iff, ← same, handler_replace, Jsx.toList_replace_quote]
    exact Jsx.quote_notMem_escapeQuotes _
  · intro free
    have same : Text.replace '"' "&quot;" script = script := by
      apply String.toList_injective
      rw [Jsx.toList_replace_quote, Jsx.escapeQuotes_of_notMem free]
    rw [same]

/-! ### The two ways -/

variable {name : String}

theorem notTabled_of_isEvent (lower : Text.lower name = name) (event : Name.isEvent name = true) :
    Name.isBoolean name = false ∧ name ∉ ["class", "classname", "style"] := by
  have tables : ∀ other ∈ Name.booleans ++ ["class", "classname", "style"],
      Name.isEvent other = false := by decide +kernel
  have notTabled : name ∉ Name.booleans ++ ["class", "classname", "style"] := by
    intro mem
    rw [tables name mem] at event
    cases event
  rw [List.mem_append, not_or] at notTabled
  refine ⟨?_, notTabled.2⟩
  rw [Name.isBoolean, lower, List.contains_eq_mem]
  exact decide_eq_false notTabled.1

theorem convert_handler (assets : AssetMap) (options : Options) (tag : String) (tables : Tables)
    (lower : Text.lower name = name) (event : Name.isEvent name = true)
    (given : isAbsent script false = false) :
    convert assets options tag [(name, script)] tables =
      (Jsx.Attribute.text ⟨Name.eventProperty name, .expression (handler script)⟩, tables) := by
  obtain ⟨notBoolean, notTabled⟩ := notTabled_of_isEvent lower event
  simp only [List.mem_cons, List.not_mem_nil, or_false, not_or] at notTabled
  have added : add assets options tag { tables } name script =
      { attributes := [⟨Name.eventProperty name, .expression (handler script)⟩], tables } := by
    rw [add, notBoolean, if_neg (by simp [given]), if_neg (by simp [notTabled]),
      if_neg notTabled.2.2, if_pos event]
    rfl
  have gathered : gather assets options tag [(name, script)] tables =
      { attributes := [⟨Name.eventProperty name, .expression (handler script)⟩], tables } := by
    rw [gather, List.foldl_cons, List.foldl_nil, lower, added]
  simp [convert, properties, gathered, classAttribute, Jsx.attributesText]

theorem normalized_of_isEvent (lower : Text.lower name = name) (event : Name.isEvent name = true)
    (text : String) :
    Jsx.WrittenAttribute.normalized ⟨name, some (.quoted text)⟩ =
      Jsx.Attribute.written ⟨Name.eventProperty name, .expression (handler text)⟩ := by
  have notClass : Text.lower name ≠ "class" := by
    rw [lower]
    rintro rfl
    exact (notTabled_of_isEvent lower event).2 (by simp)
  rw [Jsx.WrittenAttribute.normalized, if_neg notClass, event]
  rfl

theorem isReadable_of_isEvent (lower : Text.lower name = name) (event : Name.isEvent name = true)
    (text : String) : Jsx.WrittenAttribute.IsReadable ⟨name, some (.quoted text)⟩ := by
  refine ⟨?_, fun c mem => ?_, ?_⟩
  · rintro rfl
    cases event
  · exact Text.of_isAlphanum (P := fun c => Jsx.inAttributeName c = true) (by decide +kernel)
      (Text.isAlphanum_of_isAlpha (Name.isAlpha_of_isEvent lower event c mem))
  · rintro _ ⟨⟩
    exact nofun

theorem normalize_handler {tag : String} (isName : Jsx.isTagName tag = true)
    (lower : Text.lower name = name) (event : Name.isEvent name = true) (script : String) :
    Jsx.normalize ("<" ++ tag ++ " " ++ name ++ "=" ++ Jsx.quotedText script ++ ">") =
      "<" ++ tag ++ Jsx.Attribute.text ⟨Name.eventProperty name,
        .expression (handler (Text.replace '"' "&quot;" script))⟩ ++ ">" := by
  have written : "<" ++ tag ++ " " ++ name ++ "=" ++ Jsx.quotedText script ++ ">" =
      Jsx.StartTag.written ⟨tag, [⟨name, some (.quoted script)⟩], false⟩ := by
    apply String.toList_injective
    simp [Jsx.StartTag.written, Jsx.tailText, Jsx.WrittenAttribute.written,
      Jsx.WrittenValue.written, Jsx.tagEnd]
  have scanned := @Jsx.StartTag.scan_written ⟨tag, [⟨name, some (.quoted script)⟩], false⟩ isName
    (List.forall_mem_singleton.2 (isReadable_of_isEvent lower event script)) []
  -- the script is read as it is written, with its references
  have copied := Jsx.normalizeFrom_of_some scanned
  rw [List.append_nil, Jsx.normalizeFrom, List.append_nil] at copied
  have read : Jsx.WrittenAttribute.reread ⟨name, some (.quoted script)⟩ =
      ⟨name, some (.quoted (Text.replace '"' "&quot;" script))⟩ := rfl
  rw [written, Jsx.normalize, copied, String.ofList_toList, Jsx.StartTag.normalized]
  simp only [List.map_cons, List.map_nil, read, normalized_of_isEvent lower event,
    Jsx.written_text]
  simp

/-- **A script becomes the same function on both ways if it has no double quotes.** Converting gives
the function, and normalizing gives it with its double quotes as references. -/
theorem handlers_agree_iff (assets : AssetMap) (options : Options) (tables : Tables) {tag : String}
    (isName : Jsx.isTagName tag = true) (lower : Text.lower name = name)
    (event : Name.isEvent name = true) (given : isAbsent script false = false) :
    (convert assets options tag [(name, script)] tables).1 =
      " " ++ Name.eventProperty name ++ "=\x7b" ++ handler script ++ "\x7d" ∧
    Jsx.normalize ("<" ++ tag ++ " " ++ name ++ "=" ++ Jsx.quotedText script ++ ">") =
      "<" ++ tag ++ " " ++ Name.eventProperty name ++ "=\x7b" ++
        Text.replace '"' "&quot;" (handler script) ++ "\x7d>" ∧
    (Jsx.normalize ("<" ++ tag ++ " " ++ name ++ "=" ++ Jsx.quotedText script ++ ">") =
        "<" ++ tag ++ (convert assets options tag [(name, script)] tables).1 ++ ">" ↔
      '"' ∉ script.toList) := by
  have converted := convert_handler assets options tag tables lower event given
  have normalized := normalize_handler isName lower event script
  have ways (code : String) : "<" ++ tag ++
      Jsx.Attribute.text ⟨Name.eventProperty name, .expression code⟩ ++ ">" =
        "<" ++ tag ++ " " ++ Name.eventProperty name ++ "=\x7b" ++ code ++ "\x7d>" := by
    apply String.toList_injective
    simp [Jsx.Attribute.text, Jsx.Value.text]
  refine ⟨?_, ?_, ?_⟩
  · rw [converted]
    apply String.toList_injective
    simp [Jsx.Attribute.text, Jsx.Value.text]
  · rw [normalized, ways, handler_replace]
  · rw [normalized, converted, ways, ways, ← handler_replace_eq_iff]
    simp

/-- A script with its scheme, single quotes, braces, a reference and a comment. -/
def commentedScript : String :=
  " javascript: f('a', \x7bb: 1\x7d) && g('&quot;') // c "

theorem handlers_agree_iff_commentedScript :
    (Name.isEvent "ondblclick" = true ∧ isAbsent commentedScript false = false) ∧
    (convert {} {} "b" [("ondblclick", commentedScript)] {}).1 =
      " onDoubleClick=\x7b() => \x7b f('a', \x7bb: 1\x7d) && g('&quot;') // c\n\x7d\x7d" ∧
    Jsx.normalize ("<b ondblclick=" ++ Jsx.quotedText commentedScript ++ ">") =
      "<b" ++ (convert {} {} "b" [("ondblclick", commentedScript)] {}).1 ++ ">" := by
  have event : Name.isEvent "ondblclick" = true := by decide
  have given : isAbsent commentedScript false = false := by decide +kernel
  have agree := @handlers_agree_iff commentedScript "ondblclick" {} {} {} "b" (by decide)
    (by decide) event given
  exact ⟨⟨event, given⟩, agree.1.trans (by decide +kernel), agree.2.2.2 (by decide +kernel)⟩

/-- A double quote stays the reference that it is written as, which is no JavaScript. -/
theorem normalize_quotedHandler :
    Jsx.normalize "<b onclick=\"say(&quot;hi&quot;)\">" =
      "<b onClick=\x7b() => \x7b say(&quot;hi&quot;)\n\x7d\x7d>" ∧
    "<b" ++ (convert {} {} "b" [("onclick", "say(\"hi\")")] {}).1 ++ ">" =
      "<b onClick=\x7b() => \x7b say(\"hi\")\n\x7d\x7d>" ∧
    Jsx.normalize ("<b onclick=" ++ Jsx.quotedText "say(\"hi\")" ++ ">") ≠
      "<b" ++ (convert {} {} "b" [("onclick", "say(\"hi\")")] {}).1 ++ ">" := by
  decide +kernel

end Attribute

end JsxPages
