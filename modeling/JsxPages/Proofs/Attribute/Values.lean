import JsxPages.Attribute.Value
import JsxPages.Proofs.Jsx.Code
import JsxPages.Proofs.Style.Declaration
import JsxPages.Proofs.Text.Cuts
import Mathlib.Data.List.Basic
/-!
# Expressions that attributes are set to

Every expression that an attribute is set to is closed code, so it ends where a reader who counts
braces says: handlers if their scripts are closed, simple expressions because they hold neither
braces nor quotes, and style objects because their fields are identifiers and their values string
literals.
-/

namespace JsxPages

open Jsx (Closed closed_append_iff isInert)

namespace Attribute

/-! ### Handlers -/

theorem closed_handlerBody {script : String} (closed : Closed script.toList) :
    Closed (handlerBody script).toList := by
  have trimmed := closed.trim
  refine Closed.trim ?_
  rw [String.toList_ofList]
  cases scheme : "javascript:".toList.isPrefixOf? (Text.trim script).toList with
  | none => exact trimmed
  | some rest =>
    rw [← List.isPrefixOf?_eq_some_iff_append_eq.1 scheme] at trimmed
    exact (closed_append_iff (List.all_eq_true.1 (by decide))).1 trimmed

theorem closed_handler {script : String} (closed : Closed script.toList) :
    Closed (handler script).toList := by
  have inner : Closed (" ".toList ++ (handlerBody script).toList ++ "\n".toList) :=
    (Closed.append (by decide) (closed_handlerBody closed)).append (by decide)
  have whole : (handler script).toList = "() => ".toList ++ '\x7b' ::
      (" ".toList ++ (handlerBody script).toList ++ "\n".toList ++ ['\x7d']) := by
    simp [handler]
  rw [whole]
  exact (closed_append_iff (List.all_eq_true.1 (by decide))).2 inner.braces

/-! ### Simple expressions -/

/-- Characters of paths and numbers. -/
def inSimple (c : Char) : Bool :=
  Text.isWord c || Text.isDecimalDigit c || c == '$' || c == '.' || c == '-'

theorem inSimple_of_isMember {text : List Char} (member : isMember text = true) :
    ∀ c ∈ text, inSimple c = true := by
  cases text with
  | nil => simp
  | cons c rest =>
    simp only [isMember, Name.isIdentifierStart, Bool.and_eq_true, Bool.or_eq_true, beq_iff_eq,
      List.all_eq_true] at member
    obtain ⟨start, others⟩ := member
    refine List.forall_mem_cons.2 ⟨?_, fun d mem => ?_⟩
    · rcases start with (alpha | rfl) | rfl
      · simp [inSimple, Text.isWord, Char.isAlphanum, alpha]
      · decide
      · decide
    · rcases others d mem with word | rfl
      · simp [inSimple, word]
      · decide

theorem inSimple_of_isPath {text : List Char} (path : isPath text = true) :
    ∀ c ∈ text, inSimple c = true := by
  intro c mem
  by_cases point : c = '.'
  · subst point
    decide
  · have kept : c ∈ text.filter (!· == '.') := List.mem_filter.2 ⟨mem, by simp [point]⟩
    rw [← Text.flatten_splitWhere] at kept
    obtain ⟨part, isPart, inPart⟩ := List.mem_flatten.1 kept
    exact inSimple_of_isMember (List.all_eq_true.1 path part isPart) c inPart

theorem inSimple_of_isDigits {text : List Char} (digits : isDigits text = true) :
    ∀ c ∈ text, inSimple c = true := by
  intro c mem
  have digit := List.all_eq_true.1 (Bool.and_eq_true_iff.1 digits).2 c mem
  simp [inSimple, digit]

theorem inSimple_of_isUnsigned {text : List Char} (unsigned : isUnsigned text = true) :
    ∀ c ∈ text, inSimple c = true := by
  unfold isUnsigned at unsigned
  split at unsigned
  · exact inSimple_of_isDigits unsigned
  · rename_i whole fraction cut
    obtain ⟨before, after⟩ := Bool.and_eq_true_iff.1 unsigned
    rw [(Text.cutFirst_eq_some cut).1]
    refine List.forall_mem_append.2 ⟨inSimple_of_isDigits before, ?_⟩
    exact List.forall_mem_cons.2 ⟨by decide, inSimple_of_isDigits after⟩

theorem inSimple_of_isNumber {text : List Char} (number : isNumber text = true) :
    ∀ c ∈ text, inSimple c = true := by
  unfold isNumber at number
  split at number
  · exact List.forall_mem_cons.2 ⟨by decide, inSimple_of_isUnsigned number⟩
  · exact inSimple_of_isUnsigned number

theorem closed_expressionBody {value body : String} (simple : expressionBody? value = some body) :
    Closed body.toList := by
  unfold expressionBody? at simple
  split at simple
  · split at simple
    · rename_i written _
      dsimp only at simple
      split at simple
      · rename_i shape
        obtain rfl := Option.some.inj simple
        have all := shape.elim inSimple_of_isPath inSimple_of_isNumber
        rw [String.toList_ofList]
        exact Jsx.closed_of_inert fun c mem => (Jsx.isInert_of (by decide +kernel) (all c mem)).1
      · cases simple
    · cases simple
  · cases simple

/-! ### Values that depend on the name -/

theorem closed_plainValue {name value code : String}
    (given : plainValue name value = .expression code) : Closed code.toList := by
  unfold plainValue at given
  split at given
  · rename_i body simple
    obtain rfl := Jsx.Value.expression.inj given
    exact closed_expressionBody simple
  · unfold booleanValue at given
    dsimp only at given
    split_ifs at given
    · obtain rfl := Jsx.Value.expression.inj given
      decide
    · obtain rfl := Jsx.Value.expression.inj given
      decide

/-- Boolean attributes are set to no text that is a truth value. -/
theorem ne_of_plainValue {name value text : String} (boolean : Name.isBoolean name = true)
    (given : plainValue name value = .literal text) : text ≠ "true" ∧ text ≠ "false" := by
  have written : booleanValue name value = .literal text := by
    unfold plainValue at given
    split at given
    · cases given
    · rwa [if_pos boolean] at given
  have lowered :
      Text.lower (Text.trim "true") = "true" ∧ Text.lower (Text.trim "false") = "false" := by
    decide
  unfold booleanValue at written
  dsimp only at written
  split_ifs at written with isTrue isFalse
  obtain rfl := Jsx.Value.literal.inj written
  constructor
  · rintro rfl
    exact isTrue (.inr (.inr lowered.1))
  · rintro rfl
    exact isFalse lowered.2

theorem exists_dataValue (value : String) : ∃ text, dataValue value = .literal text := by
  unfold dataValue
  split <;> exact ⟨_, rfl⟩

end Attribute

/-! ### Styles -/

namespace Style

/-- All fields have identifiers as their names. -/
def Named (style : Style) : Prop :=
  ∀ field ∈ style.properties, Name.isIdentifier field.1 = true

theorem named_ofText (css : String) : (ofText css).Named := by
  intro field mem
  have declared := (declaredIn_ofText css).properties field mem
  obtain ⟨written, _, read⟩ := List.mem_filterMap.1 declared
  exact (isUsable_of_readDeclaration? read).1

theorem isInert_of_isIdentifier {name : String} (identifier : Name.isIdentifier name = true) :
    ∀ c ∈ name.toList, isInert c = true := by
  unfold Name.isIdentifier at identifier
  split at identifier
  · cases identifier
  · rename_i c rest spelled
    obtain ⟨start, others⟩ := Bool.and_eq_true_iff.1 identifier
    rw [spelled]
    refine List.forall_mem_cons.2
      ⟨(Jsx.isInert_of (p := Name.isIdentifierStart) (by decide +kernel) start).1, fun d mem => ?_⟩
    exact (Jsx.isInert_of (p := Name.isIdentifierChar) (by decide +kernel)
      (List.all_eq_true.1 others d mem)).1

theorem closed_fieldText {field : String × String} (named : Name.isIdentifier field.1 = true) :
    Closed (fieldText field).toList := by
  have whole : (fieldText field).toList =
      (field.1.toList ++ ": ".toList) ++ (Jsx.stringLiteral field.2).toList := by
    simp [fieldText]
  rw [whole]
  refine (closed_append_iff ?_).2 (Jsx.closed_stringLiteral field.2)
  exact List.forall_mem_append.2 ⟨isInert_of_isIdentifier named, List.all_eq_true.1 (by decide)⟩

theorem closed_fields {fields : List (String × String)}
    (named : ∀ field ∈ fields, Name.isIdentifier field.1 = true) :
    Closed (", ".intercalate (fields.map fieldText)).toList := by
  induction fields with
  | nil => exact Jsx.closed_nil
  | cons field fields ih =>
    obtain ⟨first, others⟩ := List.forall_mem_cons.1 named
    cases fields with
    | nil =>
      rw [List.map_singleton, String.intercalate_singleton]
      exact closed_fieldText first
    | cons next rest =>
      rw [List.map_cons, List.map_cons, String.intercalate_cons_cons, ← List.map_cons,
        String.toList_append, String.toList_append]
      exact ((closed_fieldText first).append (by decide)).append (ih others)

theorem closed_objectLiteral {style : Style} (named : style.Named) {object : String}
    (given : style.objectLiteral? = some object) : Closed object.toList := by
  unfold objectLiteral? at given
  split at given
  · cases given
  · obtain rfl := Option.some.inj given
    have whole (fields : String) : ("\x7b " ++ fields ++ " \x7d").toList =
        '\x7b' :: (" ".toList ++ fields.toList ++ " ".toList ++ ['\x7d']) := by
      simp
    rw [whole]
    exact (((Closed.append (by decide) (closed_fields named)).append (by decide))).braces

end Style

end JsxPages
