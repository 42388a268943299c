import JsxPages.Text.Basic
import JsxPages.Text.Blank
import JsxPages.Text.Word
/-!
# ASCII characters

Letters and digits are ASCII, and so is all that markup and scripts give a meaning to. What is asked
of them is a finite question (`forall_ascii`). Only they have another case, so questions of letter
case are finite as well (`of_case`).
-/

namespace JsxPages.Text

/-- What holds of the first 128 characters holds of every ASCII character. -/
theorem forall_ascii {P : Char → Prop} (all : ∀ code < 128, P (Char.ofNat code)) {c : Char}
    (ascii : c.toNat < 128) : P c := by
  have one := all c.toNat ascii
  rwa [Char.ofNat_toNat] at one

theorem toNat_lt_of_isAlphanum {c : Char} (alphanumeric : c.isAlphanum = true) :
    c.toNat < 128 := by
  have kinds : (c.isUpper || c.isLower || c.isDigit) = true := alphanumeric
  rw [Bool.or_eq_true, Bool.or_eq_true] at kinds
  rcases kinds with (upper | lower) | digit
  · have range : c.val ≥ 'A'.val ∧ c.val ≤ 'Z'.val := of_decide_eq_true upper
    have bound : c.toNat ≤ 90 := UInt32.le_iff_toNat_le.1 range.2
    omega
  · have range := Bool.and_eq_true_iff.1 lower
    have bound : c.toNat ≤ 122 := UInt32.le_iff_toNat_le.1 (of_decide_eq_true range.2)
    omega
  · have range := Bool.and_eq_true_iff.1 digit
    have bound : c.toNat ≤ 57 := UInt32.le_iff_toNat_le.1 (of_decide_eq_true range.2)
    omega

/-- What holds of the ASCII letters and digits holds of all letters and digits. -/
theorem of_isAlphanum {P : Char → Prop}
    (all : ∀ code < 128, (Char.ofNat code).isAlphanum = true → P (Char.ofNat code)) {c : Char}
    (alphanumeric : c.isAlphanum = true) : P c :=
  forall_ascii (P := fun c => c.isAlphanum = true → P c) all
    (toNat_lt_of_isAlphanum alphanumeric) alphanumeric

theorem isAlphanum_toUpper {c : Char} (alphanumeric : c.isAlphanum = true) :
    c.toUpper.isAlphanum = true :=
  of_isAlphanum (P := fun c => c.toUpper.isAlphanum = true) (by decide) alphanumeric

theorem toLower_of_isAlphanum {c : Char} (alphanumeric : c.isAlphanum = true) :
    c.toLower.isLower = true ∨ c.toLower.isDigit = true :=
  of_isAlphanum (P := fun c => c.toLower.isLower = true ∨ c.toLower.isDigit = true) (by decide)
    alphanumeric

theorem isAlphanum_of_isAlpha {c : Char} (alpha : c.isAlpha = true) : c.isAlphanum = true := by
  simp [Char.isAlphanum, alpha]

theorem isBlank_of_isAlphanum {c : Char} (alphanumeric : c.isAlphanum = true) :
    isBlank c = false :=
  of_isAlphanum (P := fun c => isBlank c = false) (by decide) alphanumeric

theorem isAlpha_of_isUpper {c : Char} (upper : c.isUpper = true) : c.isAlpha = true :=
  Bool.or_eq_true_iff.2 (.inl upper)

theorem isAlpha_of_isLower {c : Char} (lower : c.isLower = true) : c.isAlpha = true :=
  Bool.or_eq_true_iff.2 (.inr lower)

theorem isAlphanum_of_isLower {c : Char} (lower : c.isLower = true) : c.isAlphanum = true :=
  isAlphanum_of_isAlpha (isAlpha_of_isLower lower)

theorem isAlphanum_of_isDigit {c : Char} (digit : c.isDigit = true) : c.isAlphanum = true := by
  simp [Char.isAlphanum, digit]

/-! ### Letter case -/

theorem isLower_of_isUpper {c : Char} (upper : c.isUpper = true) : c.isLower = false :=
  of_isAlphanum (P := fun c => c.isUpper = true → c.isLower = false) (by decide)
    (isAlphanum_of_isAlpha (isAlpha_of_isUpper upper)) upper

theorem isAlpha_of_beyond {c : Char} (beyond : 128 ≤ c.toNat) : c.isAlpha = false := by
  rw [← Bool.not_eq_true]
  intro alpha
  have ascii := toNat_lt_of_isAlphanum (isAlphanum_of_isAlpha alpha)
  omega

theorem isLower_of_beyond {c : Char} (beyond : 128 ≤ c.toNat) : c.isLower = false :=
  (Bool.or_eq_false_iff.1 (isAlpha_of_beyond beyond)).2

/-- What is not ASCII has no other case. -/
theorem toLower_of_beyond {c : Char} (beyond : 128 ≤ c.toNat) : c.toLower = c := by
  refine dif_neg fun upper => ?_
  have bound : c.toNat ≤ 90 := UInt32.le_iff_toNat_le.1 upper.2
  omega

theorem toUpper_of_beyond {c : Char} (beyond : 128 ≤ c.toNat) : c.toUpper = c := by
  refine dif_neg fun lower => ?_
  have bound : c.toNat ≤ 122 := UInt32.le_iff_toNat_le.1 lower.2
  omega

/-- What holds of the ASCII characters, and of what is no letter and has no other case, holds of every
character. -/
theorem of_case {P : Char → Prop} (ascii : ∀ code < 128, P (Char.ofNat code))
    (others : ∀ c : Char, c.toLower = c → c.toUpper = c → c.isAlpha = false → P c) (c : Char) :
    P c := by
  by_cases small : c.toNat < 128
  · exact forall_ascii ascii small
  · have beyond := Nat.le_of_not_lt small
    exact others c (toLower_of_beyond beyond) (toUpper_of_beyond beyond) (isAlpha_of_beyond beyond)

theorem toLower_cases (c : Char) : c.toLower.isAlpha = true ∨ c.toLower = c :=
  of_case (P := fun c => c.toLower.isAlpha = true ∨ c.toLower = c) (by decide)
    (fun _ same _ _ => .inr same) c

/-- A capital of ASCII is the character itself or stands for a small letter. -/
theorem toUpper_eq_cases (c : Char) :
    c.toUpper.isUpper = true ∨ c.toUpper = c ∧ c.isLower = false :=
  of_case (P := fun c => c.toUpper.isUpper = true ∨ c.toUpper = c ∧ c.isLower = false) (by decide)
    (fun _ _ same sign => .inr ⟨same, (Bool.or_eq_false_iff.1 sign).2⟩) c

theorem toUpper_cases (c : Char) : c.toUpper.isAlpha = true ∨ c.toUpper = c :=
  (toUpper_eq_cases c).imp isAlpha_of_isUpper And.left

theorem isAlpha_toUpper (c : Char) : c.toUpper.isAlpha = c.isAlpha :=
  of_case (P := fun c => c.toUpper.isAlpha = c.isAlpha) (by decide)
    (fun _ _ same _ => congrArg Char.isAlpha same) c

theorem isAlpha_toLower (c : Char) : c.toLower.isAlpha = c.isAlpha :=
  of_case (P := fun c => c.toLower.isAlpha = c.isAlpha) (by decide)
    (fun _ same _ _ => congrArg Char.isAlpha same) c

theorem isLower_toUpper (c : Char) : c.toUpper.isLower = false :=
  of_case (P := fun c => c.toUpper.isLower = false) (by decide)
    (fun _ _ same sign => by rw [same]; exact (Bool.or_eq_false_iff.1 sign).2) c

theorem isUpper_toLower (c : Char) : c.toLower.isUpper = false :=
  of_case (P := fun c => c.toLower.isUpper = false) (by decide)
    (fun _ same _ sign => by rw [same]; exact (Bool.or_eq_false_iff.1 sign).1) c

theorem toLower_toLower (c : Char) : c.toLower.toLower = c.toLower :=
  of_case (P := fun c => c.toLower.toLower = c.toLower) (by decide)
    (fun _ same _ _ => congrArg Char.toLower same) c

theorem toLower_toUpper (c : Char) : c.toUpper.toLower = c.toLower :=
  of_case (P := fun c => c.toUpper.toLower = c.toLower) (by decide)
    (fun _ _ same _ => congrArg Char.toLower same) c

theorem lower_lower (text : String) : lower (lower text) = lower text := by
  simp only [lower, String.toList_ofList, List.map_map]
  congr 2
  funext c
  exact toLower_toLower c

end JsxPages.Text
